import HeadEnd.Cluster.FailureDetector
import Mathlib.Data.List.MinMax

/-! What messages from other nodes can do to a node's membership list: to the
map of the others, to the node's own record, and to the entry of the sender. -/
namespace HeadEnd.Cluster
open Transition

/-- The payload of a message that is handled as a heartbeat. -/
def ClusterMessage.asHeartbeat (msg : ClusterMessage) : Option HeartbeatPayload :=
  match msg.msgType, msg.payload with
  | .heartbeat, .heartbeat heartbeat => some heartbeat
  | _, _ => none

namespace MembershipList

def nodeCount (ml : MembershipList) : Nat := ml.nodes.entries.card + 1

/-- The ids that the entries of the map carry. -/
def remoteIds (ml : MembershipList) : Finset Uuid :=
  (ml.nodes.entries.map (fun entry => entry.2.nodeId)).toFinset

/-- What is handed to a redistribution: the active nodes as the map lists them. -/
def otherActiveNodes (active : List NodeInfo) : List (Uuid × Nat) :=
  active.map (fun n => (n.nodeId, n.deviceCount.toNat))

section Local
variable {ml : MembershipList} {id : Uuid} {g : NodeInfo → NodeInfo}
  {hg : ∀ n, (g n).nodeId = n.nodeId} {node : NodeInfo} {now : Int} {fromAddr : SocketAddr}
  {msg : ClusterMessage}

@[simp] theorem modify_localNode : (ml.modify id g hg).localNode = ml.localNode := by
  unfold modify
  split <;> rfl

@[simp] theorem updateHeartbeat_localNode : (ml.updateHeartbeat id now).localNode = ml.localNode :=
  modify_localNode

@[simp] theorem markSuspect_localNode : (ml.markSuspect id).localNode = ml.localNode := by
  rw [markSuspect, modify_localNode]

@[simp] theorem markDead_localNode : (ml.markDead id).localNode = ml.localNode := by
  rw [markDead, modify_localNode]

@[simp] theorem addOrUpdateNode_localNode :
    (ml.addOrUpdateNode node now).localNode = ml.localNode := by
  unfold addOrUpdateNode
  split
  · rfl
  · split
    · exact modify_localNode
    · rfl

theorem modifyAny_localNode_of_ne (h : id ≠ ml.localNodeId) :
    (ml.modifyAny id g hg).localNode = ml.localNode := by
  have hne : ¬ id = ml.localNode.nodeId := h
  rw [modifyAny, if_neg hne, modify_localNode]

theorem modifyAny_localNode_self :
    (ml.modifyAny ml.localNodeId g hg).localNode = g ml.localNode := by
  rw [localNodeId, modifyAny, if_pos rfl]
  rfl

theorem modifyAny_localNodeId : (ml.modifyAny id g hg).localNodeId = ml.localNodeId := by
  by_cases h : id = ml.localNodeId
  · rw [h, localNodeId, modifyAny_localNode_self, hg]
    rfl
  · rw [localNodeId, modifyAny_localNode_of_ne h]
    rfl

theorem handleHeartbeat_localNodeId {heartbeat : HeartbeatPayload} :
    (ml.handleHeartbeat id fromAddr heartbeat now).localNodeId = ml.localNodeId := by
  unfold handleHeartbeat
  split
  next => exact modifyAny_localNodeId
  next => exact congrArg NodeInfo.nodeId addOrUpdateNode_localNode

theorem handleHeartbeat_localNode_of_ne {heartbeat : HeartbeatPayload}
    (h : id ≠ ml.localNodeId) :
    (ml.handleHeartbeat id fromAddr heartbeat now).localNode = ml.localNode := by
  unfold handleHeartbeat
  split
  next => exact modifyAny_localNode_of_ne h
  next => exact addOrUpdateNode_localNode

/-- Nothing but a heartbeat under the node's own id reaches the local record. -/
theorem handleMessage_localNode (h : msg.asHeartbeat = none ∨ msg.nodeId ≠ ml.localNodeId) :
    (ml.handleMessage fromAddr msg now).localNode = ml.localNode := by
  have hdone : Handles ml fromAddr msg now (ml.handleMessage fromAddr msg now) :=
    handleMessage_handles
  generalize ml.handleMessage fromAddr msg now = ml' at hdone
  cases hdone with
  | heartbeat hm hp =>
    refine handleHeartbeat_localNode_of_ne (h.resolve_left ?_)
    simp [ClusterMessage.asHeartbeat, hm, hp]
  | ack _ | alive _ _ _ => exact updateHeartbeat_localNode
  | status _ _ | join _ _ => exact addOrUpdateNode_localNode
  | suspect => exact markSuspect_localNode
  | dead _ _ => exact markDead_localNode
  | leave _ | kept => rfl

/-- A heartbeat under the node's own id is recorded like any other. -/
theorem handleMessage_localNode_self {heartbeat : HeartbeatPayload}
    (h : msg.asHeartbeat = some heartbeat) (hid : msg.nodeId = ml.localNodeId) :
    (ml.handleMessage fromAddr msg now).localNode =
      { ml.localNode with
        status := heartbeat.status
        bucketCount := heartbeat.bucketCount.toUInt32
        deviceCount := heartbeat.deviceCount
        loadPercent := (heartbeat.loadPercent.toNat : ℚ)
        maxDeviceSuggested := heartbeat.maxDeviceSuggested
        lastHeartbeat := now } := by
  obtain ⟨version, msgType, nodeId, seq, stamp, payload⟩ := msg
  have hlocal : nodeId = ml.localNode.nodeId := hid
  have hknown : (ml.getNode nodeId).isSome := by
    rw [getNode, if_pos hlocal]
    rfl
  cases msgType with
  | heartbeat =>
    cases payload with
    | heartbeat hb =>
      cases h
      subst hlocal
      simp only [handleMessage, handleHeartbeat, if_pos hknown]
      exact modifyAny_localNode_self
    | _ => cases h
  | _ => cases h

theorem handleMessage_localNodeId :
    (ml.handleMessage fromAddr msg now).localNodeId = ml.localNodeId := by
  cases hhb : msg.asHeartbeat with
  | none => exact congrArg NodeInfo.nodeId (handleMessage_localNode (.inl hhb))
  | some hb =>
    by_cases hid : msg.nodeId = ml.localNodeId
    · rw [localNodeId, handleMessage_localNode_self hhb hid]
      rfl
    · exact congrArg NodeInfo.nodeId (handleMessage_localNode (.inr hid))

end Local

section Remote
variable {ml : MembershipList} {l : List NodeInfo}

theorem getNode_isSome_iff {id : Uuid} :
    (ml.getNode id).isSome ↔ id = ml.localNodeId ∨ id ∈ ml.nodes := by
  unfold getNode localNodeId
  split
  next h => simp [h]
  next h => rw [Finmap.lookup_isSome, or_iff_right h]

theorem nodeId_of_mem_entries {entry : Sigma (fun _ : Uuid => NodeInfo)}
    (h : entry ∈ ml.nodes.entries) : entry.2.nodeId = entry.1 :=
  ml.nodes_keyed entry.1 entry.2 (Finmap.lookup_eq_some_iff.mpr h)

/-- An entry counts once, so the length of the map is the number of ids in it. -/
theorem nodeCount_eq (ml : MembershipList) : ml.nodeCount = 1 + ml.remoteIds.card := by
  have hids : ml.nodes.entries.map (fun entry => entry.2.nodeId) = ml.nodes.entries.keys := by
    refine Multiset.map_congr rfl ?_
    intro entry hentry
    exact nodeId_of_mem_entries hentry
  rw [nodeCount, remoteIds, hids, Multiset.toFinset_card_of_nodup ml.nodes.nodupKeys.nodup_keys,
    Multiset.keys, Multiset.card_map, Nat.add_comm]

theorem localNodeId_notMem_remoteIds : ml.localNodeId ∉ ml.remoteIds := by
  intro h
  rw [remoteIds, Multiset.mem_toFinset, Multiset.mem_map] at h
  obtain ⟨entry, hentry, hid⟩ := h
  have hlookup := Finmap.lookup_eq_some_iff.mpr hentry
  rw [← nodeId_of_mem_entries hentry, hid, localNodeId, ml.lookup_local] at hlookup
  cases hlookup

/-- A list of entries of the map does not have the local node in it. -/
theorem localNodeId_notMem_of_lookup (h : ∀ n ∈ l, ml.nodes.lookup n.nodeId = some n) :
    ml.localNodeId ∉ l.map NodeInfo.nodeId := by
  intro hmem
  obtain ⟨n, hn, hid⟩ := List.mem_map.mp hmem
  have hlookup := h n hn
  rw [hid, localNodeId, ml.lookup_local] at hlookup
  cases hlookup

end Remote

/-- The local node stands beside the map of the others and never in it. -/
structure MapInvariant (localId : Uuid) (ml : MembershipList) : Prop where
  localNodeId_eq : ml.localNodeId = localId
  local_notMem : localId ∉ ml.nodes
  nodeId_eq : ∀ id n, ml.nodes.lookup id = some n → n.nodeId = id
  nodeCount_eq : ml.nodeCount = 1 + ml.remoteIds.card
  local_notRemote : localId ∉ ml.remoteIds
  broadcast : ∀ l, ml.ReachableNodes l → localId ∉ l.map NodeInfo.nodeId
  redistribution : ∀ l, ml.ActiveNodes l → localId ∉ (otherActiveNodes l).map Prod.fst

theorem mapInvariant (ml : MembershipList) : ml.MapInvariant ml.localNodeId where
  localNodeId_eq := rfl
  local_notMem := Finmap.lookup_eq_none.mp ml.lookup_local
  nodeId_eq := ml.nodes_keyed
  nodeCount_eq := ml.nodeCount_eq
  local_notRemote := localNodeId_notMem_remoteIds
  broadcast := fun l hl => localNodeId_notMem_of_lookup fun n hn => ((hl.2 n).mp hn).1
  redistribution := by
    intro l hl
    have hfst : (otherActiveNodes l).map Prod.fst = l.map NodeInfo.nodeId := List.map_map
    rw [hfst]
    exact localNodeId_notMem_of_lookup fun n hn => ((hl.2 n).mp hn).1

end MembershipList

namespace DetectorState
variable {s t : DetectorState} {e : DetectorEvent}

theorem suspect_localNode (ml : MembershipList) (now : Int) (id : Uuid) (rest : List Uuid) :
    (suspect ml now id rest).1.localNode = ml.localNode := by
  unfold suspect
  split
  · rfl
  · split
    · rfl
    · exact MembershipList.markSuspect_localNode

theorem markDead_localNode (ml : MembershipList) (id : Uuid) (rest : List Uuid) :
    (markDead ml id rest).1.localNode = ml.localNode := by
  unfold markDead
  split
  · exact MembershipList.markDead_localNode
  · rfl

/-- Neither a message nor the detector renames the local node. -/
theorem Step.localNodeId (h : Step s e t) :
    t.membership.localNodeId = s.membership.localNodeId := by
  cases h with
  | suspect => exact congrArg NodeInfo.nodeId (suspect_localNode _ _ _ _)
  | markDead => exact congrArg NodeInfo.nodeId (markDead_localNode _ _ _)
  | revive => exact MembershipList.modifyAny_localNodeId
  | message => exact MembershipList.handleMessage_localNodeId
  | _ => rfl

/-- Every run that starts with a new membership list keeps the map's invariant,
with the configured id as the local one. -/
theorem membership_map_invariant {config : ClusterConfig} {now : Int} {es : List DetectorEvent}
    (h : Run Step ⟨.new config now, now, .waiting⟩ es s) :
    s.membership.MapInvariant config.nodeId := by
  have hid : s.membership.localNodeId = config.nodeId := by
    refine h.invariant (fun s => s.membership.localNodeId = config.nodeId) ?_ rfl
    intro s e t hs hstep
    rw [hstep.localNodeId, hs]
  rw [← hid]
  exact s.membership.mapInvariant

end DetectorState

/- Node 1, and a peer with id 2 that also sends under the id of node 1. -/
def peerConfig : ClusterConfig :=
  ⟨1, "node-1", ⟨.v4 0x7f000001, 7000⟩, 6565, fromSecs 60, fromSecs 60⟩

def remoteAddr : SocketAddr := ⟨.v4 0x7f000001, 7001⟩

def heartbeatOf (nodeId : Uuid) (seq : UInt32) (status : NodeStatus) (devices : UInt32) :
    ClusterMessage :=
  .new nodeId seq .heartbeat (.heartbeat ⟨status, 0, devices, 0, 1000, []⟩) 0

def joinOf (nodeId : Uuid) : ClusterMessage :=
  .new nodeId 1 .nodeJoin (.nodeJoin ⟨"node-1", remoteAddr, 6565⟩) 0

/-- A join under the local id, then a heartbeat of the peer. -/
theorem membership_map_invariant_join : MembershipList.MapInvariant 1
    (((MembershipList.new peerConfig 0).handleMessage remoteAddr (joinOf 1) 0).handleMessage
      remoteAddr (heartbeatOf 2 1 .active 4) 0) := by
  have hrun : Run DetectorState.Step ⟨.new peerConfig 0, 0, .waiting⟩
      [.message remoteAddr (joinOf 1), .message remoteAddr (heartbeatOf 2 1 .active 4)]
      ⟨((MembershipList.new peerConfig 0).handleMessage remoteAddr (joinOf 1) 0).handleMessage
        remoteAddr (heartbeatOf 2 1 .active 4) 0, 0, .waiting⟩ :=
    .cons .message (.cons .message (.nil _))
  exact DetectorState.membership_map_invariant hrun

section LocalRecord

/- Handling a message takes the membership lock for writing once or more often;
   in between, other tasks may have it. -/
inductive HandlerSection where
  | first | seq | stats | forget
  deriving DecidableEq

/-- What each of these sections does to the list. -/
inductive Handles (fromAddr : SocketAddr) (msg : ClusterMessage) (now : Int) (ml : MembershipList) :
    HandlerSection → MembershipList → Prop
  | first : Handles fromAddr msg now ml .first (ml.handleMessage fromAddr msg now)
  | seq : Handles fromAddr msg now ml .seq ml.nextSeq
  | stats {dead : NodeDeadPayload} (deviceCount : UInt32) :
      msg.msgType = .nodeDead → msg.payload = .nodeDead dead →
      Handles fromAddr msg now ml .stats
        (ml.updateLocalStats ml.localNode.bucketCount deviceCount)
  | forget {dead : NodeDeadPayload} : msg.msgType = .nodeDead → msg.payload = .nodeDead dead →
      Handles fromAddr msg now ml .forget (ml.removeNode dead.deadNodeId)

/-- The record `b` after a section is the record `a` before it, counts and load
apart if the section updates the local stats. -/
structure LocalKept (sec : HandlerSection) (a b : NodeInfo) : Prop where
  nodeName : b.nodeName = a.nodeName
  clusterAddr : b.clusterAddr = a.clusterAddr
  status : b.status = a.status
  maxDeviceSuggested : b.maxDeviceSuggested = a.maxDeviceSuggested
  lastHeartbeat : b.lastHeartbeat = a.lastHeartbeat
  deviceCount : sec ≠ .stats → b.deviceCount = a.deviceCount
  loadPercent : sec ≠ .stats → b.loadPercent = a.loadPercent

/-- A heartbeat under the node's own id that does not repeat what is recorded. -/
def ClusterMessage.Impersonates (msg : ClusterMessage) (n : NodeInfo) (now : Int) : Prop :=
  ∃ heartbeat, msg.asHeartbeat = some heartbeat ∧ msg.nodeId = n.nodeId ∧
    ¬ (heartbeat.status = n.status ∧ heartbeat.maxDeviceSuggested = n.maxDeviceSuggested ∧
      now = n.lastHeartbeat ∧ heartbeat.deviceCount = n.deviceCount ∧
      (heartbeat.loadPercent.toNat : ℚ) = n.loadPercent)

variable {ml : MembershipList} {fromAddr : SocketAddr} {msg : ClusterMessage} {now : Int}

theorem localKept_of_eq {sec : HandlerSection} {a b : NodeInfo} (h : b = a) :
    LocalKept sec a b := by
  subst h
  exact ⟨rfl, rfl, rfl, rfl, rfl, fun _ => rfl, fun _ => rfl⟩

theorem localKept_first (h : ¬ msg.Impersonates ml.localNode now) :
    LocalKept .first ml.localNode (ml.handleMessage fromAddr msg now).localNode := by
  cases hhb : msg.asHeartbeat with
  | none => exact localKept_of_eq (MembershipList.handleMessage_localNode (.inl hhb))
  | some hb =>
    by_cases hid : msg.nodeId = ml.localNodeId
    · have hsame := not_not.mp fun hne => h ⟨hb, hhb, hid, hne⟩
      obtain ⟨hstatus, hmax, hnow, hcount, hload⟩ := hsame
      rw [MembershipList.handleMessage_localNode_self hhb hid]
      exact ⟨rfl, rfl, hstatus, hmax, hnow, fun _ => hcount, fun _ => hload⟩
    · exact localKept_of_eq (MembershipList.handleMessage_localNode (.inr hid))

/-- Handling a message keeps the local record exactly if the message does not
impersonate the local node. -/
theorem peers_keep_local_record_iff (ml : MembershipList) (fromAddr : SocketAddr)
    (msg : ClusterMessage) (now : Int) :
    (∀ sec ml', Handles fromAddr msg now ml sec ml' → LocalKept sec ml.localNode ml'.localNode) ↔
      ¬ msg.Impersonates ml.localNode now := by
  constructor
  · intro h himp
    obtain ⟨hb, hhb, hid, hne⟩ := himp
    have hkept := h .first _ .first
    rw [MembershipList.handleMessage_localNode_self hhb hid] at hkept
    exact hne ⟨hkept.status, hkept.maxDeviceSuggested, hkept.lastHeartbeat,
      hkept.deviceCount (by decide), hkept.loadPercent (by decide)⟩
  · intro h sec ml' hsec
    cases hsec with
    | first => exact localKept_first h
    | seq => exact localKept_of_eq rfl
    | stats deviceCount htype hpayload =>
      exact ⟨rfl, rfl, rfl, rfl, rfl, fun hne => absurd rfl hne, fun hne => absurd rfl hne⟩
    | forget htype hpayload => exact localKept_of_eq rfl

/-- Node 1 is Active; a heartbeat under its id, from elsewhere, says Draining. -/
theorem local_record_rewritten :
    ¬ ∀ es s fromAddr msg now sec ml',
      Run DetectorState.Step ⟨.new peerConfig 0, 0, .waiting⟩ es s →
      Handles fromAddr msg now s.membership sec ml' →
      LocalKept sec s.membership.localNode ml'.localNode := by
  intro h
  have hrun : Run DetectorState.Step ⟨.new peerConfig 0, 0, .waiting⟩ [.localStatus .active]
      ⟨(MembershipList.new peerConfig 0).setLocalStatus .active, 0, .waiting⟩ :=
    .single .localStatus
  have hkept := h _ _ remoteAddr (heartbeatOf 1 1 .draining 4) 0 .first _ hrun .first
  exact absurd hkept.status (by decide +kernel)

end LocalRecord

section SenderOrder

/-- What a heartbeat says about its sender. -/
structure Report where
  status : NodeStatus
  bucketCount : UInt32
  deviceCount : UInt32
  loadPercent : ℚ
  maxDeviceSuggested : UInt32
  deriving DecidableEq

def NodeInfo.report (n : NodeInfo) : Report :=
  ⟨n.status, n.bucketCount, n.deviceCount, n.loadPercent, n.maxDeviceSuggested⟩

def HeartbeatPayload.report (heartbeat : HeartbeatPayload) : Report :=
  ⟨heartbeat.status, heartbeat.bucketCount.toUInt32, heartbeat.deviceCount,
    (heartbeat.loadPercent.toNat : ℚ), heartbeat.maxDeviceSuggested⟩

/-- A heartbeat or a NODE_LEAVE of one peer, with where and when it arrives. -/
structure PeerMessage (peer : Uuid) where
  msg : ClusterMessage
  fromAddr : SocketAddr
  now : Int
  sender : msg.nodeId = peer
  kind : (∃ heartbeat, msg.asHeartbeat = some heartbeat) ∨ msg.msgType = .nodeLeave

/-- The entry that the message asks for: none if the peer leaves. -/
def PeerMessage.asks {peer : Uuid} (m : PeerMessage peer) : Option Report :=
  m.msg.asHeartbeat.map HeartbeatPayload.report

/-- The message with the highest sequence number. -/
def PeerMessage.newest {peer : Uuid} (ms : List (PeerMessage peer)) : Option (PeerMessage peer) :=
  ms.argmax (fun m => m.msg.seq.toNat)

namespace MembershipList

def deliver {peer : Uuid} (ml : MembershipList) (m : PeerMessage peer) : MembershipList :=
  ml.handleMessage m.fromAddr m.msg m.now

/-- The peer's entry, as far as its messages decide it. -/
def entry (ml : MembershipList) (peer : Uuid) : Option Report :=
  (ml.nodes.lookup peer).map NodeInfo.report

variable {ml : MembershipList} {peer : Uuid}

theorem entry_handleHeartbeat {fromAddr : SocketAddr} {heartbeat : HeartbeatPayload} {now : Int}
    (hpeer : peer ≠ ml.localNodeId) :
    (ml.handleHeartbeat peer fromAddr heartbeat now).entry peer = some heartbeat.report := by
  have hne : ¬ peer = ml.localNode.nodeId := hpeer
  unfold handleHeartbeat entry
  rw [getNode, if_neg hne]
  cases hlookup : ml.nodes.lookup peer with
  | some n =>
    simp only [Option.isSome_some, if_true, modifyAny, if_neg hne]
    rw [lookup_modify_self, hlookup]
    rfl
  | none =>
    have hnew : ¬ (none : Option NodeInfo).isSome = true := by simp
    rw [if_neg hnew, addOrUpdateNode, dif_neg hne, hlookup, if_neg hnew, Finmap.lookup_insert]
    rfl

/-- Whatever the list knew before, the message just handled decides the entry. -/
theorem entry_deliver (hpeer : peer ≠ ml.localNodeId) (m : PeerMessage peer) :
    (ml.deliver m).entry peer = m.asks := by
  obtain ⟨⟨version, msgType, nodeId, seq, stamp, payload⟩, fromAddr, now, sender, kind⟩ := m
  subst sender
  cases msgType with
  | heartbeat =>
    cases payload with
    | heartbeat hb => exact entry_handleHeartbeat hpeer
    | _ => simp [ClusterMessage.asHeartbeat] at kind
  | nodeLeave =>
    have hgone : (ml.removeNode nodeId).nodes.lookup nodeId = none := Finmap.lookup_erase _ _
    exact congrArg (Option.map NodeInfo.report) hgone
  | _ => simp [ClusterMessage.asHeartbeat] at kind

theorem deliver_localNodeId (m : PeerMessage peer) :
    (ml.deliver m).localNodeId = ml.localNodeId :=
  handleMessage_localNodeId

theorem foldl_deliver_localNodeId (ms : List (PeerMessage peer)) (ml : MembershipList) :
    (ms.foldl deliver ml).localNodeId = ml.localNodeId := by
  induction ms generalizing ml with
  | nil => rfl
  | cons m ms ih => rw [List.foldl_cons, ih, deliver_localNodeId]

/-- The order of the sender counts for nothing: the entry is what the message
delivered last asks for. -/
theorem entry_foldl_deliver (hpeer : peer ≠ ml.localNodeId) {ms : List (PeerMessage peer)}
    {last : PeerMessage peer} (hlast : ms.getLast? = some last) :
    (ms.foldl deliver ml).entry peer = last.asks := by
  obtain ⟨before, rfl⟩ := List.getLast?_eq_some_iff.mp hlast
  rw [List.foldl_append]
  refine entry_deliver ?_ last
  rw [foldl_deliver_localNodeId]
  exact hpeer

/-- The peer's entry follows the newest of its messages exactly if the one delivered
last asks for the same entry. -/
theorem entry_follows_newest_iff (hpeer : peer ≠ ml.localNodeId) {ms : List (PeerMessage peer)}
    (hne : ms ≠ []) :
    (ms.foldl deliver ml).entry peer = (PeerMessage.newest ms).bind PeerMessage.asks ↔
      ms.getLast?.bind PeerMessage.asks = (PeerMessage.newest ms).bind PeerMessage.asks := by
  have hlast := List.getLast?_eq_some_getLast hne
  rw [entry_foldl_deliver hpeer hlast, hlast, Option.bind_some]

end MembershipList

/- Peer 2 sends a heartbeat, then NODE_LEAVE, then starts again and sends another
   heartbeat. -/
def peerBeat (seq : UInt32) (devices : UInt32) : PeerMessage 2 where
  msg := heartbeatOf 2 seq .active devices
  fromAddr := remoteAddr
  now := 0
  sender := rfl
  kind := .inl ⟨_, rfl⟩

def peerLeave (seq : UInt32) : PeerMessage 2 where
  msg := .new 2 seq .nodeLeave .empty 0
  fromAddr := remoteAddr
  now := 0
  sender := rfl
  kind := .inr rfl

/-- The first two change places; the newest is still the last to arrive. -/
theorem entry_follows_newest_overtaken :
    ([peerLeave 2, peerBeat 1 4, peerBeat 3 5].foldl MembershipList.deliver
      (.new peerConfig 0)).entry 2 = some ⟨.active, 0, 5, 0, 1000⟩ := by
  have hpeer : (2 : Uuid) ≠ (MembershipList.new peerConfig 0).localNodeId := by decide
  have hne : [peerLeave 2, peerBeat 1 4, peerBeat 3 5] ≠ [] := by simp
  exact (MembershipList.entry_follows_newest_iff hpeer hne).mpr rfl

/-- The heartbeat arrives after the NODE_LEAVE that was sent after it. -/
theorem left_peer_added_again :
    ¬ ∀ (ml : MembershipList) (ms : List (PeerMessage 2)), 2 ≠ ml.localNodeId → ms ≠ [] →
      (ms.map (fun m => m.msg.seq)).Nodup →
      (ms.foldl MembershipList.deliver ml).entry 2 =
        (PeerMessage.newest ms).bind PeerMessage.asks := by
  intro h
  have hentry := h (.new peerConfig 0) [peerLeave 2, peerBeat 1 4] (by decide) (by simp) (by decide)
  exact absurd hentry (by decide +kernel)

end SenderOrder

end HeadEnd.Cluster
