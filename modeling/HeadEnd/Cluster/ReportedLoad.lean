import HeadEnd.Cluster.Acceptance
import HeadEnd.Cluster.Redistribution

/-! The load that a node reports. The count is kept in the membership record and brought
up to date only where `update_local_stats` is called. -/
namespace HeadEnd.Cluster
open Transition DeviceManager

namespace MembershipList

/-- `known` lists the keys of the map. -/
def createHeartbeatPayload (ml : MembershipList) (known : List Uuid) : HeartbeatPayload where
  status := ml.localNode.status
  bucketCount := ml.localNode.bucketCount.toUInt16
  deviceCount := ml.localNode.deviceCount
  loadPercent := Float32.toUInt8 ml.localNode.loadPercent
  maxDeviceSuggested := ml.localNode.maxDeviceSuggested
  knownNodes := known

end MembershipList

def NodeInfo.known (n : NodeInfo) : KnownNodeInfo where
  nodeId := n.nodeId
  nodeName := n.nodeName
  clusterAddr := n.clusterAddr
  backdoorPort := n.backdoorPort
  status := n.status

/- What can go wrong while a message is handled, and the order in which sets are met. -/
structure Circumstances where
  fault : AcceptFault
  fails : DbCall → Bool
  active : List NodeInfo
  orphaned : List Uuid

inductive LoadEvent where
  | registerDevice (now : Int) (device : Device) (fails : Bool)
  | receive (fromAddr : SocketAddr) (msg : ClusterMessage) (now : Int) (c : Circumstances)
  | deadNode (failed : Uuid) (c : Circumstances)

/-- The messages that touch devices. -/
inductive DeviceMessage where
  | delegateRequest (payload : DelegateRequestPayload)
  | delegateAccept (payload : DelegateAcceptPayload)
  | nodeDead (payload : NodeDeadPayload)
  | other

def ClusterMessage.deviceMessage (msg : ClusterMessage) : DeviceMessage :=
  match msg.msgType, msg.payload with
  | .delegateRequest, .delegateRequest payload => .delegateRequest payload
  | .delegateAccept, .delegateAccept payload => .delegateAccept payload
  | .nodeDead, .nodeDead payload => .nodeDead payload
  | _, _ => .other

namespace Survivor

def toServer (s : Survivor) : Server := ⟨s.membership, s.dm, s.localNodeId_dm⟩

/-- The answer to a STATUS_REQUEST. The count is the device manager's, cast to `u32`. -/
def statusResponse (s : Survivor) (fromNodeId : Uuid) (reachable : List NodeInfo) :
    StatusResponsePayload where
  nodeName := s.membership.localNode.nodeName
  status := s.membership.localNode.status
  bucketCount := UInt16.ofNat s.dm.scheduler.bucketNumber
  deviceCount := UInt32.ofNat s.dm.ownedDevices.card
  loadPercent := Float32.toUInt8 s.membership.localNode.loadPercent
  maxDeviceSuggested := s.membership.localNode.maxDeviceSuggested
  backdoorPort := s.membership.localNode.backdoorPort
  knownNodes := (reachable.filter fun n => n.nodeId ≠ fromNodeId).map NodeInfo.known

def register (s : Survivor) (now : Int) (device : Device) : Survivor :=
  match h : s.dm.registerDevice s.db now device with
  | .error _ => s
  | .ok (db, dm, _) =>
    { s with
      db, dm
      localNodeId_dm := by
        rw [(registerDevice_eq_ok h).2.1]
        exact s.localNodeId_dm }

def receive (s : Survivor) (fromAddr : SocketAddr) (msg : ClusterMessage) (now : Int)
    (c : Circumstances) : Survivor :=
  match msg.deviceMessage with
  | .delegateRequest payload =>
    let h := Server.handleRequestWithFault c.fault s.db s.toServer fromAddr payload now
    ⟨h.server.membership, h.db, h.server.dm, h.server.localNodeId_dm⟩
  | .delegateAccept payload =>
    let sv := s.toServer.handleDelegationAccept payload
    ⟨sv.membership, s.db, sv.dm, sv.localNodeId_dm⟩
  | .nodeDead payload =>
    (s.handleNodeDead c.fails payload.deadNodeId c.active c.orphaned).node
  | .other =>
    { s with
      membership := s.membership.handleMessage fromAddr msg now
      localNodeId_dm := by
        rw [MembershipList.handleMessage_localNodeId]
        exact s.localNodeId_dm }

def applyLoad (s : Survivor) : LoadEvent → Survivor
  | .registerDevice now device fails => if fails then s else s.register now device
  | .receive fromAddr msg now c => s.receive fromAddr msg now c
  | .deadNode failed c => (s.handleDeadNode c.fails failed c.active c.orphaned).node

/-- The lists are those of the active nodes and of the failed node's devices. -/
def Lawful (s : Survivor) (failed : Uuid) (c : Circumstances) : Prop :=
  (s.membership.markDead failed).ActiveNodes c.active ∧
    Lists c.orphaned (s.db.getDevicesByOwner failed)

def AllowsLoad (s : Survivor) : LoadEvent → Prop
  | .registerDevice _ _ _ => True
  | .receive _ msg _ c =>
    ∀ payload, msg.deviceMessage = .nodeDead payload → s.Lawful payload.deadNodeId c
  | .deadNode failed c => s.Lawful failed c

def LoadStep (s : Survivor) (e : LoadEvent) (t : Survivor) : Prop :=
  s.AllowsLoad e ∧ t = s.applyLoad e

/-- What is reported is what there is: the count in heartbeats and status responses, and
the load on which the overload test is made. -/
structure Reported (s : Survivor) : Prop where
  heartbeat : ∀ known,
    (s.membership.createHeartbeatPayload known).deviceCount.toNat = s.dm.ownedDevices.card
  statusResponse : ∀ fromNodeId reachable,
    (s.statusResponse fromNodeId reachable).deviceCount.toNat = s.dm.ownedDevices.card
  loadPercent : s.membership.localNode.loadPercent =
    MembershipList.loadOf s.membership.localNode.maxDeviceSuggested s.dm.ownedDevices.card

/-- The devices that a redistribution assigns to the local node before a call fails. -/
def assignedHere (s : Survivor) (failed : Uuid) (c : Circumstances) : Finset Uuid :=
  if c.fails (.getDevicesByOwner failed) then ∅
  else (((updatesMade c.fails (s.plan c.active c.orphaned)).filter
    fun p => p.2 = s.dm.localNodeId).map Prod.fst).toFinset

/-- No call of the redistribution fails. -/
def Completes (failed : Uuid) (c : Circumstances) : Prop :=
  c.fails (.getDevicesByOwner failed) = false ∧
    ∀ d ∈ c.orphaned, c.fails (.setDeviceOwner d) = false

/-- The operations that leave the reported load right. -/
def KeepsReported (s : Survivor) : LoadEvent → Prop
  | .registerDevice _ device fails =>
    fails = true ∨ ¬ (s.dm.scheduler.testMode = true ∨ 0 < s.dm.scheduler.bucketNumber) ∨
      device.id ∈ s.dm.ownedDevices
  | .receive _ msg _ c =>
    match msg.deviceMessage with
    | .delegateRequest payload =>
      ¬ s.toServer.canAccept payload.reason = true ∨
        ∀ d ∈ claimed c.fault (payload.devices.map DelegatedDevicePayload.deviceId),
          d ∈ s.dm.ownedDevices
    | .delegateAccept payload => ∀ d ∈ payload.acceptedDeviceIds, d ∉ s.dm.ownedDevices
    | .nodeDead payload =>
      c.fails (.updateClusterNodeStatus payload.deadNodeId) = true ∨
        (Completes payload.deadNodeId c ∧
          (s.dm.ownedDevices ∪ s.assignedHere payload.deadNodeId c).card < 2 ^ 32) ∨
        (¬ Completes payload.deadNodeId c ∧
          s.assignedHere payload.deadNodeId c ⊆ s.dm.ownedDevices)
    | .other =>
      ∀ heartbeat, msg.asHeartbeat = some heartbeat → msg.nodeId = s.membership.localNodeId →
        heartbeat.deviceCount.toNat = s.dm.ownedDevices.card ∧
          (heartbeat.loadPercent.toNat : ℚ) =
            MembershipList.loadOf heartbeat.maxDeviceSuggested s.dm.ownedDevices.card
  | .deadNode failed c =>
    (s.membership.getNode failed).isSome = false ∨
      (s.dm.ownedDevices ∪ s.assignedHere failed c).card < 2 ^ 32

section Step
variable {s t : Survivor}

theorem reported_iff : s.Reported ↔
    s.membership.localNode.deviceCount.toNat = s.dm.ownedDevices.card ∧
      s.membership.localNode.loadPercent =
        MembershipList.loadOf s.membership.localNode.maxDeviceSuggested s.dm.ownedDevices.card := by
  constructor
  · exact fun h => ⟨h.heartbeat [], h.loadPercent⟩
  · intro ⟨hcount, hload⟩
    refine ⟨fun _ => hcount, fun _ _ => ?_, hload⟩
    have hlt : s.dm.ownedDevices.card < 2 ^ 32 := by
      rw [← hcount]
      exact s.membership.localNode.deviceCount.toNat_lt
    exact UInt32.toNat_ofNat_of_lt hlt

/-- As long as the record stays as it is, the number of devices has to. -/
theorem reported_iff_of_localNode (h : s.Reported)
    (hlocal : t.membership.localNode = s.membership.localNode) :
    t.Reported ↔ t.dm.ownedDevices.card = s.dm.ownedDevices.card := by
  obtain ⟨hcount, hload⟩ := reported_iff.mp h
  rw [reported_iff, hlocal, hcount, hload]
  exact ⟨fun ht => ht.1.symm, fun ht => ⟨ht.symm, by rw [ht]⟩⟩

/-- The statistics are right after they were brought up to date, if the count fits. -/
theorem reported_syncStats_iff : s.syncStats.Reported ↔ s.dm.ownedDevices.card < 2 ^ 32 := by
  rw [reported_iff]
  constructor
  · intro h
    have hlt := (s.syncStats.membership.localNode.deviceCount).toNat_lt
    rw [h.1] at hlt
    exact hlt
  · intro hlt
    have hcount : (UInt32.ofNat s.dm.ownedDevices.card).toNat = s.dm.ownedDevices.card :=
      UInt32.toNat_ofNat_of_lt hlt
    refine ⟨hcount, ?_⟩
    simp only [syncStats, MembershipList.updateLocalStats, MembershipList.modifyLocal, hcount]

/- With 530 devices of 1000 the quotient falls short of 0.53, and the fraction is cut. -/
example : Float32.toUInt8 (MembershipList.loadOf 1000 530) = 52 := by decide +kernel

theorem card_union_eq_iff {owned extra : Finset Uuid} :
    (owned ∪ extra).card = owned.card ↔ extra ⊆ owned := by
  constructor
  · intro h
    rw [← Finset.union_eq_left, eq_comm]
    exact Finset.eq_of_subset_of_card_le Finset.subset_union_left h.le
  · intro h
    rw [Finset.union_eq_left.mpr h]

theorem card_sdiff_eq_iff {owned gone : Finset Uuid} :
    (owned \ gone).card = owned.card ↔ ∀ d ∈ gone, d ∉ owned := by
  constructor
  · intro h d hgone hd
    have heq := Finset.eq_of_subset_of_card_le Finset.sdiff_subset h.ge
    rw [← heq, Finset.mem_sdiff] at hd
    exact hd.2 hgone
  · intro h
    rw [Finset.sdiff_eq_self_of_disjoint]
    exact Finset.disjoint_left.mpr fun d hd hgone => h d hgone hd

theorem reported_register_iff (h : s.Reported) (now : Int) (device : Device) :
    (s.register now device).Reported ↔
      ¬ (s.dm.scheduler.testMode = true ∨ 0 < s.dm.scheduler.bucketNumber) ∨
        device.id ∈ s.dm.ownedDevices := by
  unfold register
  split
  next e he =>
    exact ⟨fun _ => .inl (not_registers_of_error he), fun _ => h⟩
  next db dm wake hr =>
    have hok := (exists_registerDevice_iff s.db s.dm now device).mp ⟨_, hr⟩
    have howned : dm.ownedDevices = s.dm.ownedDevices ∪ {device.id} := by
      rw [(registerDevice_eq_ok hr).2.1, Finset.union_comm]
      rfl
    refine (reported_iff_of_localNode h ?_).trans ?_
    · rfl
    · dsimp only
      rw [howned, card_union_eq_iff, Finset.singleton_subset_iff]
      exact ⟨.inr, fun hcase => hcase.resolve_left fun hno => hno hok⟩

theorem reported_request_iff (h : s.Reported) (fault : AcceptFault) (fromAddr : SocketAddr)
    (payload : DelegateRequestPayload) (now : Int) (hreceived : t.membership.localNode =
      (Server.handleRequestWithFault fault s.db s.toServer fromAddr payload
        now).server.membership.localNode)
    (hdm : t.dm =
      (Server.handleRequestWithFault fault s.db s.toServer fromAddr payload now).server.dm) :
    t.Reported ↔ ¬ s.toServer.canAccept payload.reason = true ∨
      ∀ d ∈ claimed fault (payload.devices.map DelegatedDevicePayload.deviceId),
        d ∈ s.dm.ownedDevices := by
  by_cases hacc : s.toServer.canAccept payload.reason = true
  · have hlocal : t.membership.localNode = s.membership.localNode := by
      simp only [hreceived, Server.handleRequestWithFault, if_pos hacc]
      rfl
    rw [reported_iff_of_localNode h hlocal, hdm, handleRequestWithFault_ownedDevices hacc]
    change (s.dm.ownedDevices ∪ _).card = _ ↔ _
    rw [card_union_eq_iff, or_iff_right (not_not_intro hacc)]
    exact ⟨fun hsub d hd => hsub (List.mem_toFinset.mpr hd),
      fun hall d hd => hall d (List.mem_toFinset.mp hd)⟩
  · have hlocal : t.membership.localNode = s.membership.localNode := by
      simp only [hreceived, Server.handleRequestWithFault, if_neg hacc]
      rfl
    have hsame : t.dm = s.dm := by
      simp only [hdm, Server.handleRequestWithFault, if_neg hacc]
      rfl
    rw [reported_iff_of_localNode h hlocal, hsame]
    exact iff_of_true rfl (.inl hacc)

theorem redistributeFromFailed_ownedDevices (s : Survivor) (failed : Uuid) (c : Circumstances) :
    (s.redistributeFromFailed c.fails failed c.active c.orphaned).2.dm.ownedDevices =
      s.dm.ownedDevices ∪ s.assignedHere failed c := by
  have hmade : (assignOrphans c.fails (s.plan c.active c.orphaned) (s.db, s.dm)).2.2.ownedDevices =
      ((updatesMade c.fails (s.plan c.active c.orphaned)).foldl assignOrphan
        (s.db, s.dm)).2.ownedDevices := by
    rw [assignOrphans_snd]
  unfold redistributeFromFailed assignedHere
  split
  · rw [Finset.union_empty]
  · refine hmade.trans (Finset.ext fun d => ?_)
    rw [mem_foldl_assignOrphan, Finset.mem_union, List.mem_toFinset, or_comm]
    refine or_congr_right ?_
    simp

theorem redistributeFromFailed_fst_iff (s : Survivor) (failed : Uuid) (c : Circumstances) :
    (s.redistributeFromFailed c.fails failed c.active c.orphaned).1 = true ↔
      Completes failed c := by
  unfold Completes
  cases hquery : c.fails (.getDevicesByOwner failed) with
  | true => simp [redistributeFromFailed_of_query_fails hquery]
  | false =>
    rw [redistributeFromFailed_fst hquery]
    constructor
    · intro hok
      refine ⟨rfl, fun d hd => Bool.eq_false_iff.mpr fun hfail => ?_⟩
      have hmem : d ∈ (s.plan c.active c.orphaned).map Prod.fst := by
        rw [map_fst_plan]
        exact hd
      rw [assignOrphans_fst_of_fails _ hmem hfail] at hok
      cases hok
    · intro ⟨_, hall⟩
      rw [assignOrphans_eq]
      rw [map_fst_plan]
      exact hall

/-- Brought up to date, with the dead node struck off the list. -/
theorem reported_refreshed_iff {r : Survivor} {failed : Uuid} :
    (r.syncStats.removeNode failed).Reported ↔ r.dm.ownedDevices.card < 2 ^ 32 := by
  rw [← reported_syncStats_iff, reported_iff, reported_iff]
  rfl

theorem reported_nodeDead_iff (h : s.Reported) (failed : Uuid) (c : Circumstances) :
    (s.handleNodeDead c.fails failed c.active c.orphaned).node.Reported ↔
      c.fails (.updateClusterNodeStatus failed) = true ∨
        (Completes failed c ∧ (s.dm.ownedDevices ∪ s.assignedHere failed c).card < 2 ^ 32) ∨
        (¬ Completes failed c ∧ s.assignedHere failed c ⊆ s.dm.ownedDevices) := by
  have howned := redistributeFromFailed_ownedDevices (s.markDead failed) failed c
  have hfst := redistributeFromFailed_fst_iff (s.markDead failed) failed c
  unfold handleNodeDead
  by_cases hstatus : c.fails (.updateClusterNodeStatus failed) = true
  · rw [if_pos hstatus, reported_iff_of_localNode h MembershipList.markDead_localNode]
    exact iff_of_true rfl (.inl hstatus)
  · rw [if_neg hstatus, or_iff_right hstatus]
    dsimp only
    by_cases hcomplete : Completes failed c
    · rw [if_pos (hfst.mpr hcomplete), reported_refreshed_iff, howned]
      exact ⟨fun hlt => .inl ⟨hcomplete, hlt⟩, fun hcase => hcase.elim And.right
        fun hno => absurd hcomplete hno.1⟩
    · have hlocal : ((s.markDead failed).redistributeFromFailed c.fails failed c.active
          c.orphaned).2.membership.localNode = s.membership.localNode := by
        rw [redistributeFromFailed_membership]
        exact MembershipList.markDead_localNode
      rw [if_neg (mt hfst.mp hcomplete), reported_iff_of_localNode h hlocal, howned]
      change (s.dm.ownedDevices ∪ s.assignedHere failed c).card = _ ↔ _
      rw [card_union_eq_iff]
      exact ⟨fun hsub => .inr ⟨hcomplete, hsub⟩, fun hcase => hcase.elim
        (fun hyes => absurd hyes.1 hcomplete) And.right⟩

theorem reported_deadNode_iff (h : s.Reported) (failed : Uuid) (c : Circumstances) :
    (s.handleDeadNode c.fails failed c.active c.orphaned).node.Reported ↔
      (s.membership.getNode failed).isSome = false ∨
        (s.dm.ownedDevices ∪ s.assignedHere failed c).card < 2 ^ 32 := by
  have howned := redistributeFromFailed_ownedDevices (s.markDead failed).nextSeq failed c
  unfold handleDeadNode
  by_cases hknown : (s.membership.getNode failed).isSome = true
  · rw [if_pos hknown]
    dsimp only
    rw [reported_refreshed_iff, howned, or_iff_right (by simp [hknown])]
    rfl
  · rw [if_neg hknown]
    exact iff_of_true h (.inl (Bool.eq_false_iff.mpr hknown))

theorem reported_other_iff (h : s.Reported) {fromAddr : SocketAddr} {msg : ClusterMessage}
    {now : Int} (hlocal : t.membership.localNode =
      (s.membership.handleMessage fromAddr msg now).localNode) (hdm : t.dm = s.dm) :
    t.Reported ↔
      ∀ heartbeat, msg.asHeartbeat = some heartbeat → msg.nodeId = s.membership.localNodeId →
        heartbeat.deviceCount.toNat = s.dm.ownedDevices.card ∧
          (heartbeat.loadPercent.toNat : ℚ) =
            MembershipList.loadOf heartbeat.maxDeviceSuggested s.dm.ownedDevices.card := by
  by_cases hself : ∃ heartbeat, msg.asHeartbeat = some heartbeat ∧
      msg.nodeId = s.membership.localNodeId
  · obtain ⟨heartbeat, hhb, hid⟩ := hself
    rw [reported_iff, hlocal, MembershipList.handleMessage_localNode_self hhb hid, hdm]
    constructor
    · intro hrep heartbeat' hhb' _
      rw [hhb] at hhb'
      cases hhb'
      exact hrep
    · exact fun hall => hall heartbeat hhb hid
  · have hsame : t.membership.localNode = s.membership.localNode := by
      rw [hlocal]
      refine MembershipList.handleMessage_localNode ?_
      cases hhb : msg.asHeartbeat with
      | none => exact .inl rfl
      | some heartbeat => exact .inr fun hid => hself ⟨heartbeat, hhb, hid⟩
    rw [reported_iff_of_localNode h hsame, hdm]
    exact iff_of_true rfl fun heartbeat hhb hid => absurd ⟨heartbeat, hhb, hid⟩ hself

/-- One step from a state in which the load is reported right. -/
theorem reported_step_iff {e : LoadEvent} (h : s.Reported) (hstep : s.LoadStep e t) :
    t.Reported ↔ s.KeepsReported e := by
  obtain ⟨-, rfl⟩ := hstep
  cases e with
  | registerDevice now device fails =>
    cases fails with
    | true => exact iff_of_true h (.inl rfl)
    | false =>
      rw [applyLoad, if_neg Bool.false_ne_true, reported_register_iff h, KeepsReported,
        or_iff_right Bool.false_ne_true]
  | receive fromAddr msg now c =>
    rw [applyLoad, receive, KeepsReported]
    cases msg.deviceMessage with
    | delegateRequest payload => exact reported_request_iff h c.fault fromAddr payload now rfl rfl
    | delegateAccept payload =>
      refine (reported_iff_of_localNode h ?_).trans ?_
      · rfl
      · dsimp only
        rw [Server.handleDelegationAccept_ownedDevices]
        refine card_sdiff_eq_iff.trans ?_
        simp only [List.mem_toFinset, toServer]
    | nodeDead payload => exact reported_nodeDead_iff h payload.deadNodeId c
    | other => exact reported_other_iff h rfl rfl
  | deadNode failed c => exact reported_deadNode_iff h failed c

end Step

/-- A node as it starts: a new membership list, and what it loaded from the database. -/
def starting (config : ClusterConfig) (now : Int) (db : InnerDB) (dm : DeviceManager)
    (hid : dm.localNodeId = config.nodeId) : Survivor where
  membership := .new config now
  db := db
  dm := dm
  localNodeId_dm := hid

section Run
variable {config : ClusterConfig} {now : Int} {db : InnerDB} {dm : DeviceManager}
  {hid : dm.localNodeId = config.nodeId} {es : List LoadEvent} {t : Survivor}

theorem reported_starting_iff :
    (starting config now db dm hid).Reported ↔ dm.ownedDevices = ∅ := by
  rw [reported_iff, ← Finset.card_eq_zero]
  constructor
  · exact fun h => h.1.symm
  · intro h
    refine ⟨h.symm, ?_⟩
    change (0 : ℚ) = MembershipList.loadOf NodeInfo.defaultMaxDevices dm.ownedDevices.card
    simp [h, MembershipList.loadOf]

/-- The reported load is right after every operation of a run, exactly if the node starts
without devices and every operation keeps the report right where it is made. -/
theorem reported_load_iff (hrun : Run LoadStep (starting config now db dm hid) es t) :
    (∀ before after u, es = before ++ after →
        Run LoadStep (starting config now db dm hid) before u → u.Reported) ↔
      dm.ownedDevices = ∅ ∧
        Run (Guarded KeepsReported LoadStep) (starting config now db dm hid) es t := by
  have hdet : ∀ (s : Survivor) (e : LoadEvent) t u, s.LoadStep e t → s.LoadStep e u → t = u :=
    fun s e t u ht hu => ht.2.trans hu.2.symm
  have hiff : (starting config now db dm hid).Reported →
      ((∀ before after u, es = before ++ after →
        Run LoadStep (starting config now db dm hid) before u → u.Reported) ↔
      Run (Guarded KeepsReported LoadStep) (starting config now db dm hid) es t) :=
    hrun.forall_good_iff_guarded hdet fun s e t => reported_step_iff
  constructor
  · intro hall
    have hstart := hall [] es _ rfl (.nil _)
    exact ⟨reported_starting_iff.mp hstart, (hiff hstart).mp hall⟩
  · exact fun h => (hiff (reported_starting_iff.mpr h.1)).mpr h.2

end Run

/- Node 1 starts in test mode with an empty database. -/
def newcomer : Survivor :=
  starting peerConfig 0 InnerDB.new ⟨1, ∅, ⟨1, .empty, some ∅, 1, true⟩⟩ rfl

/- Node 2 has meters 9 and 10 when node 1 starts. It sends a heartbeat, dies and leaves them to
   node 1, with which meter 9 then registers again. -/
def heir : Survivor :=
  starting peerConfig 0 ((InnerDB.new.addDeviceToBucket 9 0 2).addDeviceToBucket 10 0 2)
    ⟨1, ∅, ⟨1, .empty, some ∅, 1, true⟩⟩ rfl

def calm : Circumstances := ⟨none, fun _ => false, [], [9, 10]⟩

def heard : LoadEvent := .receive remoteAddr (heartbeatOf 2 1 .active 2) 0 calm
def died : LoadEvent := .deadNode 2 calm
def registered : LoadEvent := .registerDevice 0 ⟨9, none, none, none⟩ false

def bereaved : Survivor := heir.applyLoad heard
def inheriting : Survivor := bereaved.applyLoad died
def served : Survivor := inheriting.applyLoad registered

theorem heir_run :
    Run (Guarded KeepsReported LoadStep) heir [heard, died, registered] served := by
  have hactive : (bereaved.membership.markDead 2).ActiveNodes [] :=
    activeNodes_markDead_nil fun id hid =>
      (Finmap.lookup_insert_of_ne _ hid).trans (Finmap.lookup_empty id)
  have hallows : heir.AllowsLoad heard := by
    intro payload hpayload
    cases hpayload
  have hheard : Guarded KeepsReported LoadStep heir heard bereaved :=
    ⟨fun heartbeat _ hid => absurd hid (by decide), hallows, rfl⟩
  have hdied : Guarded KeepsReported LoadStep bereaved died inheriting := by
    refine ⟨.inr (by decide +kernel), ⟨hactive, ?_⟩, rfl⟩
    exact ⟨by decide, by decide +kernel⟩
  have hregistered : Guarded KeepsReported LoadStep inheriting registered served :=
    ⟨.inr (.inr (by decide +kernel)), trivial, rfl⟩
  exact .cons hheard (.cons hdied (.single hregistered))

/-- Two devices are owned, and two are reported. -/
theorem reported_load_inherited : served.Reported ∧ served.dm.ownedDevices = {9, 10} := by
  have hreported := (reported_load_iff heir_run.of_guarded).mpr ⟨rfl, heir_run⟩
  exact ⟨hreported _ [] _ (List.append_nil _).symm heir_run.of_guarded, by decide +kernel⟩

/-- A meter registers; the node still reports none. -/
theorem reported_load_stale :
    ¬ ∀ (config : ClusterConfig) (now : Int) (db : InnerDB) (dm : DeviceManager)
      (hid : dm.localNodeId = config.nodeId) (es : List LoadEvent) (t : Survivor),
      dm.ownedDevices = ∅ → Run LoadStep (starting config now db dm hid) es t →
      ∀ known, (t.membership.createHeartbeatPayload known).deviceCount.toNat =
        t.dm.ownedDevices.card := by
  intro h
  have hstep : newcomer.LoadStep (.registerDevice 0 ⟨9, none, none, none⟩ false)
      (newcomer.register 0 ⟨9, none, none, none⟩) := ⟨trivial, rfl⟩
  have hcount := h peerConfig 0 InnerDB.new _ rfl _ _ rfl (.single hstep) []
  have hzero : (newcomer.register 0 ⟨9, none, none, none⟩).dm.ownedDevices.card = 1 := rfl
  rw [hzero] at hcount
  cases hcount

end Survivor

end HeadEnd.Cluster
