import HeadEnd.Cluster.Shutdown
import HeadEnd.Lib.Balance
import Mathlib.Algebra.Order.Floor.Div

/-! The requests that a departing node sends: how its devices are cut into slices and
which node is asked to take which. -/
namespace HeadEnd.Cluster
open DeviceManager

section Chunks
variable {α : Type} {n : Nat} {l c : List α}

theorem length_chunks : (chunks n l).length = l.length ⌈/⌉ n := by
  rw [chunks, List.length_map, List.length_range, Nat.ceilDiv_eq_add_pred_div]

theorem flatten_map_slices (n : Nat) (l : List α) (k : Nat) :
    ((List.range k).map fun i => (l.drop (i * n)).take n).flatten = l.take (k * n) := by
  induction k with
  | zero => simp
  | succ k ih =>
    rw [List.range_succ, List.map_append, List.flatten_append, ih, Nat.succ_mul, List.take_add]
    simp

theorem flatten_chunks (hn : 0 < n) : (chunks n l).flatten = l := by
  have hlen : l.length ≤ n * (l.length ⌈/⌉ n) := le_smul_ceilDiv hn
  rw [chunks, flatten_map_slices, ← Nat.ceilDiv_eq_add_pred_div, Nat.mul_comm]
  exact List.take_of_length_le hlen

theorem length_le_of_mem_chunks (hc : c ∈ chunks n l) : c.length ≤ n := by
  obtain ⟨i, -, rfl⟩ := List.mem_map.mp hc
  exact List.length_take_le _ _

theorem ne_nil_of_mem_chunks (hn : 0 < n) (hc : c ∈ chunks n l) : c ≠ [] := by
  obtain ⟨i, hi, rfl⟩ := List.mem_map.mp hc
  rw [List.mem_range, ← Nat.ceilDiv_eq_add_pred_div, ← Nat.not_le, ceilDiv_le_iff_le_mul hn,
    Nat.not_le] at hi
  intro hnil
  have hlen := congrArg List.length hnil
  rw [List.length_take, List.length_drop, List.length_nil, Nat.mul_comm] at hlen
  omega

theorem sublist_of_mem_chunks (hc : c ∈ chunks n l) : c.Sublist l := by
  obtain ⟨i, -, rfl⟩ := List.mem_map.mp hc
  exact (List.take_sublist _ _).trans (List.drop_sublist _ _)

theorem take_mem_chunks (hn : 0 < n) (hl : l ≠ []) : l.take n ∈ chunks n l := by
  refine List.mem_map.mpr ⟨0, List.mem_range.mpr ?_, by rw [Nat.zero_mul, List.drop_zero]⟩
  rw [← Nat.ceilDiv_eq_add_pred_div, ← Nat.not_le, ceilDiv_le_iff_le_mul hn, Nat.mul_zero,
    Nat.le_zero, List.length_eq_zero_iff]
  exact hl

/-- Slices of the rounded-up share are no more than there are shares. -/
theorem ceilDiv_ceilDiv_le {a p : Nat} (ha : 0 < a) (hp : 0 < p) : a ⌈/⌉ (a ⌈/⌉ p) ≤ p := by
  have hle : a ≤ p * (a ⌈/⌉ p) := le_smul_ceilDiv hp
  have hpos : 0 < a ⌈/⌉ p := by
    refine Nat.pos_of_ne_zero fun hzero => ?_
    rw [hzero] at hle
    omega
  rw [ceilDiv_le_iff_le_mul hpos, Nat.mul_comm]
  exact hle

end Chunks

namespace Server

/-- The requests of a plan, one after the other. -/
def sendRequests (sv : Server) (now : Int) :
    List (List DelegatedDevice × Uuid) → Except ClusterError (Server × List Outgoing)
  | [] => .ok (sv, [])
  | (chunk, target) :: rest =>
    match sv.requestDelegation [] now chunk .shutdown (some target) with
    | .error e => .error e
    | .ok (sv', out, _) =>
      match sendRequests sv' now rest with
      | .error e => .error e
      | .ok (sv'', more) => .ok (sv'', out ++ more)

/-- `deviceIds` and `active` are in the order in which the sets are iterated. -/
def shutdownDelegation (sv : Server) (db : InnerDB) (now : Int) (deviceIds : List Uuid)
    (active : List NodeInfo) : Except ClusterError (Server × List Outgoing) :=
  if deviceIds = [] then .ok (sv, [])
  else do
    let devices ← deviceIds.mapM (delegatedDevice db now)
    let plan ← shutdownPlan active devices
    sv.sendRequests now plan

end Server

def byDeviceCount (active : List NodeInfo) : List NodeInfo :=
  active.insertionSort (fun a b => a.deviceCount.toNat ≤ b.deviceCount.toNat)

/-- Slices with the nodes they go to, each node once. -/
def shutdownRequests (active : List NodeInfo) (devices : List DelegatedDevice) :
    List (List DelegatedDevice × NodeInfo) :=
  (chunks (devices.length ⌈/⌉ active.length) devices).zip (byDeviceCount active)

/-- What goes over the wire for one slice: a request for the devices of the slice, to the
node it is meant for. -/
structure Sends (request : List DelegatedDevice × NodeInfo) (o : Outgoing) : Prop where
  addr : o.1 = request.2.clusterAddr
  msgType : o.2.msgType = .delegateRequest
  payload : o.2.payload = .delegateRequest ⟨request.1.map toPayload, .shutdown⟩
  asks : o.2.asks = request.1.map DelegatedDevice.deviceId

/-- Going round a list that is long enough is going along it. -/
theorem zipIdx_map_getD_mod {α β : Type} {l : List α} {targets : List β}
    (h : l.length ≤ targets.length) (default : β) :
    l.zipIdx.map (fun p => (p.1, targets.getD (p.2 % targets.length) default)) =
      l.zip targets := by
  refine List.ext_getElem ?_ fun i hi hi' => ?_
  · simp [h]
  · have hl : i < l.length := by simpa using hi
    have htarget : i < targets.length := Nat.lt_of_lt_of_le hl h
    simp [Nat.mod_eq_of_lt htarget, List.getElem?_eq_getElem htarget]

section Plan
variable {active : List NodeInfo} {devices : List DelegatedDevice}

theorem share_pos (ha : active ≠ []) (hd : devices ≠ []) :
    0 < devices.length ⌈/⌉ active.length := by
  have hlen : devices.length ≤ active.length * (devices.length ⌈/⌉ active.length) :=
    le_smul_ceilDiv (List.length_pos_iff.mpr ha)
  have hpos := List.length_pos_iff.mpr hd
  refine Nat.pos_of_ne_zero fun hzero => ?_
  rw [hzero] at hlen
  omega

theorem length_chunks_le (ha : active ≠ []) (hd : devices ≠ []) :
    (chunks (devices.length ⌈/⌉ active.length) devices).length ≤ active.length := by
  rw [length_chunks]
  exact ceilDiv_ceilDiv_le (List.length_pos_iff.mpr hd) (List.length_pos_iff.mpr ha)

theorem length_byDeviceCount : (byDeviceCount active).length = active.length :=
  List.length_insertionSort _ _

/-- The index never wraps. -/
theorem shutdownPlan_eq (ha : active ≠ []) (hd : devices ≠ []) :
    shutdownPlan active devices =
      .ok ((shutdownRequests active devices).map fun r => (r.1, r.2.nodeId)) := by
  have htargets : ¬ (byDeviceCount active).map NodeInfo.nodeId = [] := by
    rw [List.map_eq_nil_iff, ← List.length_eq_zero_iff, length_byDeviceCount,
      List.length_eq_zero_iff]
    exact ha
  have hlen : (chunks (devices.length ⌈/⌉ active.length) devices).length ≤
      ((byDeviceCount active).map NodeInfo.nodeId).length := by
    rw [List.length_map, length_byDeviceCount]
    exact length_chunks_le ha hd
  have hzip := zipIdx_map_getD_mod hlen Uuid.nil
  rw [List.length_map, length_byDeviceCount] at hzip
  unfold byDeviceCount at htargets hzip
  simp only [shutdownPlan, if_neg htargets, List.length_map, List.length_insertionSort,
    ← Nat.ceilDiv_eq_add_pred_div, hzip, shutdownRequests, byDeviceCount, List.zip_map_right]
  rfl

end Plan

section Send
variable {sv : Server} {db : InnerDB} {now : Int}

theorem mem_devices_of_delegatedDevice {d : Uuid} {device : DelegatedDevice}
    (h : delegatedDevice db now d = .ok device) : d ∈ db.devices := by
  obtain ⟨row, hrow, -⟩ := delegatedDevice_eq_ok h
  rw [Finmap.mem_iff]
  unfold InnerDB.getDevice at hrow
  cases hlookup : db.devices.lookup d with
  | none =>
    rw [hlookup] at hrow
    cases hrow
  | some row' => exact ⟨row', rfl⟩

theorem exists_delegatedDevice {d : Uuid} (h : d ∈ db.devices) :
    ∃ device, delegatedDevice db now d = .ok device := by
  obtain ⟨row, hrow⟩ := Finmap.mem_iff.mp h
  refine ⟨⟨row.id, row.ipv4, row.ipv6, scheduleTimeOf db now d⟩, ?_⟩
  simp only [delegatedDevice, InnerDB.getDevice, hrow]

/-- A loop that fails nowhere. -/
theorem exists_mapM_ok {α β ε : Type} {f : α → Except ε β} {l : List α}
    (h : ∀ a ∈ l, ∃ b, f a = .ok b) :
    ∃ bs, l.mapM f = .ok bs ∧ List.Forall₂ (fun a b => f a = .ok b) l bs := by
  induction l with
  | nil => exact ⟨[], rfl, .nil⟩
  | cons a l ih =>
    obtain ⟨⟨b, hb⟩, hl⟩ := List.forall_mem_cons.mp h
    obtain ⟨bs, hbs, hall⟩ := ih hl
    refine ⟨b :: bs, ?_, .cons hb hall⟩
    rw [List.mapM_cons, hb, hbs]
    rfl

theorem exists_mem_left_of_forall₂ {α β : Type} {r : α → β → Prop} {l : List α} {l' : List β}
    (h : List.Forall₂ r l l') {b : β} (hb : b ∈ l') : ∃ a ∈ l, r a b := by
  induction h with
  | nil => cases hb
  | cons hab _ ih =>
    cases List.mem_cons.mp hb with
    | inl heq => exact ⟨_, List.mem_cons_self, heq ▸ hab⟩
    | inr htail =>
      obtain ⟨a, ha, hr⟩ := ih htail
      exact ⟨a, List.mem_cons_of_mem _ ha, hr⟩

theorem forall₂_of_mapM_eq_ok {α β ε : Type} {f : α → Except ε β} {l : List α} {bs : List β}
    (h : l.mapM f = .ok bs) : List.Forall₂ (fun a b => f a = .ok b) l bs := by
  induction l generalizing bs with
  | nil =>
    cases h
    exact .nil
  | cons a l ih =>
    rw [List.mapM_cons] at h
    cases ha : f a with
    | error e =>
      rw [ha] at h
      cases h
    | ok b =>
      cases hl : l.mapM f with
      | error e =>
        rw [ha, hl] at h
        cases h
      | ok rest =>
        rw [ha, hl] at h
        cases h
        exact .cons ha (ih hl)

theorem sendRequests_eq {requests : List (List DelegatedDevice × NodeInfo)} (now : Int)
    (hnonempty : ∀ r ∈ requests, r.1 ≠ [])
    (htarget : ∀ r ∈ requests, sv.membership.getNode r.2.nodeId = some r.2) :
    ∃ sv' out, sv.sendRequests now (requests.map fun r => (r.1, r.2.nodeId)) = .ok (sv', out) ∧
      List.Forall₂ Sends requests out := by
  induction requests generalizing sv with
  | nil => exact ⟨sv, [], rfl, .nil⟩
  | cons r rest ih =>
    obtain ⟨hr, hrest⟩ := List.forall_mem_cons.mp hnonempty
    obtain ⟨ht, hts⟩ := List.forall_mem_cons.mp htarget
    -- the next sequence number changes nothing about who is known
    have hts' : ∀ r ∈ rest, sv.nextSeq.membership.getNode r.2.nodeId = some r.2 := hts
    obtain ⟨sv', out, hsend, hall⟩ := ih hrest hts'
    have hasks : (r.1.map toPayload).map DelegatedDevicePayload.deviceId =
        r.1.map DelegatedDevice.deviceId := by
      rw [List.map_map]
      rfl
    refine ⟨sv', (r.2.clusterAddr, sv.message .delegateRequest
      (.delegateRequest ⟨r.1.map toPayload, .shutdown⟩) now) :: out, ?_,
      .cons ⟨rfl, rfl, rfl, hasks⟩ hall⟩
    simp only [List.map_cons, Server.sendRequests, Server.requestDelegation, if_neg hr,
      Server.delegationTarget, ht, hsend, List.singleton_append]

end Send

/-- Every device of `owned` goes to one of the `peers`, in requests of at most a fair
share, one for each of the peers with the fewest devices. -/
structure Partitions (owned : Finset Uuid) (peers : List NodeInfo)
    (requests : List (List DelegatedDevice × NodeInfo)) : Prop where
  once : Lists (requests.flatMap fun r => r.1.map DelegatedDevice.deviceId) owned
  distinct : (requests.map fun r => r.2.nodeId).Nodup
  to_peers : ∀ r ∈ requests, r.2 ∈ peers
  nonempty : ∀ r ∈ requests, r.1 ≠ []
  size_le : ∀ r ∈ requests, r.1.length ≤ owned.card ⌈/⌉ peers.length
  least : ∀ r ∈ requests, ∀ n ∈ peers, n.nodeId ∉ requests.map (fun r => r.2.nodeId) →
    r.2.deviceCount ≤ n.deviceCount

section Requests
variable {active : List NodeInfo} {devices : List DelegatedDevice}

theorem byDeviceCount_perm : (byDeviceCount active).Perm active := List.perm_insertionSort _ _

theorem byDeviceCount_sorted :
    (byDeviceCount active).Pairwise (fun a b => a.deviceCount.toNat ≤ b.deviceCount.toNat) :=
  Balance.pairwise_insertionSort_count (fun n : NodeInfo => n.deviceCount.toNat) _

theorem map_fst_shutdownRequests (ha : active ≠ []) (hd : devices ≠ []) :
    (shutdownRequests active devices).map Prod.fst =
      chunks (devices.length ⌈/⌉ active.length) devices := by
  refine List.map_fst_zip ?_
  rw [length_byDeviceCount]
  exact length_chunks_le ha hd

/-- The nodes that are asked are the first in the order. -/
theorem map_snd_shutdownRequests (ha : active ≠ []) (hd : devices ≠ []) :
    (shutdownRequests active devices).map Prod.snd = (byDeviceCount active).take
      (chunks (devices.length ⌈/⌉ active.length) devices).length := by
  have hlen : (chunks (devices.length ⌈/⌉ active.length) devices).length ≤
      (byDeviceCount active).length := by
    rw [length_byDeviceCount]
    exact length_chunks_le ha hd
  rw [shutdownRequests, List.zip_eq_zip_take_min, Nat.min_eq_left hlen, List.map_snd_zip]
  rw [List.length_take, List.length_take, Nat.min_eq_left hlen, Nat.min_self]

theorem partitions_shutdownRequests (ha : active ≠ []) (hd : devices ≠ [])
    (hids : (active.map NodeInfo.nodeId).Nodup) {owned : Finset Uuid}
    (howned : Lists (devices.map DelegatedDevice.deviceId) owned) :
    Partitions owned active (shutdownRequests active devices) := by
  have hshare := share_pos ha hd
  have hcard : owned.card = devices.length := by rw [← howned.length_eq, List.length_map]
  have hslice : ∀ r ∈ shutdownRequests active devices,
      r.1 ∈ chunks (devices.length ⌈/⌉ active.length) devices := by
    intro r hr
    rw [← map_fst_shutdownRequests ha hd]
    exact List.mem_map_of_mem hr
  have hnodes : (shutdownRequests active devices).map (fun r => r.2.nodeId) =
      ((byDeviceCount active).take
        (chunks (devices.length ⌈/⌉ active.length) devices).length).map NodeInfo.nodeId := by
    rw [← map_snd_shutdownRequests ha hd, List.map_map]
    rfl
  refine ⟨?_, ?_, ?_, ?_, ?_, ?_⟩
  · have hflat : (shutdownRequests active devices).flatMap
        (fun r => r.1.map DelegatedDevice.deviceId) = devices.map DelegatedDevice.deviceId := by
      calc (shutdownRequests active devices).flatMap (fun r => r.1.map DelegatedDevice.deviceId)
          = (((shutdownRequests active devices).map Prod.fst).map
              (List.map DelegatedDevice.deviceId)).flatten := by
            rw [List.flatMap_def, List.map_map]
            rfl
        _ = devices.map DelegatedDevice.deviceId := by
            rw [map_fst_shutdownRequests ha hd, ← List.map_flatten, flatten_chunks hshare]
    rw [hflat]
    exact howned
  · rw [hnodes]
    have hsorted : ((byDeviceCount active).map NodeInfo.nodeId).Nodup :=
      (byDeviceCount_perm.map NodeInfo.nodeId).nodup_iff.mpr hids
    exact ((List.take_sublist _ _).map NodeInfo.nodeId).nodup hsorted
  · intro r hr
    exact byDeviceCount_perm.mem_iff.mp (List.of_mem_zip hr).2
  · exact fun r hr => ne_nil_of_mem_chunks hshare (hslice r hr)
  · intro r hr
    rw [hcard]
    exact length_le_of_mem_chunks (hslice r hr)
  · intro r hr n hn hunused
    have hused : r.2 ∈ (byDeviceCount active).take
        (chunks (devices.length ⌈/⌉ active.length) devices).length := by
      rw [← map_snd_shutdownRequests ha hd]
      exact List.mem_map_of_mem hr
    rw [hnodes] at hunused
    have hsplit := byDeviceCount_perm.mem_iff.mpr hn
    rw [← List.take_append_drop (chunks (devices.length ⌈/⌉ active.length) devices).length
      (byDeviceCount active), List.mem_append] at hsplit
    have hrest := hsplit.resolve_left fun htaken => hunused (List.mem_map_of_mem htaken)
    exact byDeviceCount_sorted.rel_of_mem_take_of_mem_drop hused hrest

end Requests

theorem map_deviceId_of_delegated {db : InnerDB} {now : Int} {deviceIds : List Uuid}
    {devices : List DelegatedDevice}
    (h : List.Forall₂ (fun d device => delegatedDevice db now d = .ok device) deviceIds devices) :
    devices.map DelegatedDevice.deviceId = deviceIds := by
  induction h with
  | nil => rfl
  | cons hd hall ih =>
    obtain ⟨row, -, hid, -, -⟩ := delegatedDevice_eq_ok hd
    rw [List.map_cons, hid, ih]

namespace Server

theorem getNode_of_active {sv : Server} {active : List NodeInfo}
    (hactive : sv.membership.ActiveNodes active) {n : NodeInfo} (hn : n ∈ active) :
    sv.membership.getNode n.nodeId = some n := by
  obtain ⟨hlookup, -⟩ := (hactive.2 n).mp hn
  have hne : ¬ n.nodeId = sv.membership.localNode.nodeId := by
    intro heq
    rw [heq, sv.membership.lookup_local] at hlookup
    cases hlookup
  rw [MembershipList.getNode, if_neg hne]
  exact hlookup

/-- What the call does when every device is on file and somebody is there to take them. -/
theorem shutdownDelegation_eq {sv : Server} {db : InnerDB} {deviceIds : List Uuid}
    {active : List NodeInfo} (now : Int) (hactive : sv.membership.ActiveNodes active)
    (hpeers : active ≠ []) (hids : deviceIds ≠ []) (hfound : ∀ d ∈ deviceIds, d ∈ db.devices) :
    ∃ devices sv' out,
      List.Forall₂ (fun d device => delegatedDevice db now d = .ok device) deviceIds devices ∧
      sv.shutdownDelegation db now deviceIds active = .ok (sv', out) ∧
      List.Forall₂ Sends (shutdownRequests active devices) out := by
  obtain ⟨devices, hdevices, hall⟩ :=
    exists_mapM_ok (f := delegatedDevice db now) fun d hd => exists_delegatedDevice (hfound d hd)
  have hne : devices ≠ [] := by
    intro hnil
    rw [hnil, List.forall₂_nil_right_iff] at hall
    exact hids hall
  have hnonempty : ∀ r ∈ shutdownRequests active devices, r.1 ≠ [] := by
    intro r hr
    refine ne_nil_of_mem_chunks (share_pos hpeers hne) (List.of_mem_zip hr).1
  have htarget : ∀ r ∈ shutdownRequests active devices,
      sv.membership.getNode r.2.nodeId = some r.2 :=
    fun r hr => getNode_of_active hactive (byDeviceCount_perm.mem_iff.mp (List.of_mem_zip hr).2)
  obtain ⟨sv', out, hsend, hsent⟩ := sendRequests_eq now hnonempty htarget
  refine ⟨devices, sv', out, hall, ?_, hsent⟩
  rw [shutdownDelegation, if_neg hids, hdevices]
  exact (congrArg (· >>= sv.sendRequests now) (shutdownPlan_eq hpeers hne)).trans hsend

/-- A call that succeeds with devices to hand over found them all on file, and a peer. -/
theorem of_shutdownDelegation_eq_ok {sv sv' : Server} {db : InnerDB} {now : Int}
    {deviceIds : List Uuid} {active : List NodeInfo} {out : List Outgoing}
    (hactive : sv.membership.ActiveNodes active) (hids : deviceIds ≠ [])
    (h : sv.shutdownDelegation db now deviceIds active = .ok (sv', out)) :
    active ≠ [] ∧ ∃ devices,
      List.Forall₂ (fun d device => delegatedDevice db now d = .ok device) deviceIds devices ∧
      List.Forall₂ Sends (shutdownRequests active devices) out := by
  have hstart := h
  rw [shutdownDelegation, if_neg hids] at hstart
  cases hdevices : deviceIds.mapM (delegatedDevice db now) with
  | error e =>
    rw [hdevices] at hstart
    cases hstart
  | ok devices =>
    have hpeers : active ≠ [] := by
      intro hnil
      rw [hdevices, hnil] at hstart
      cases hstart
    have hfound : ∀ d ∈ deviceIds, d ∈ db.devices := by
      intro d hd
      obtain ⟨device, -, hdevice⟩ :=
        exists_mem_left_of_forall₂ (forall₂_of_mapM_eq_ok hdevices).flip hd
      exact mem_devices_of_delegatedDevice hdevice
    obtain ⟨devices', sv'', out', hall, hcall, hsent⟩ :=
      shutdownDelegation_eq now hactive hpeers hids hfound
    rw [hcall] at h
    cases h
    exact ⟨hpeers, devices', hall, hsent⟩

/-- The requests sent on shutdown partition the devices. -/
theorem shutdown_requests_partition (sv : Server) (db : InnerDB) (now : Int)
    (deviceIds : List Uuid) (active : List NodeInfo)
    (howned : Lists deviceIds sv.dm.ownedDevices) (hne : sv.dm.ownedDevices ≠ ∅)
    (hactive : sv.membership.ActiveNodes active) (hpeers : active ≠ [])
    (hfound : ∀ d ∈ sv.dm.ownedDevices, d ∈ db.devices) :
    ∃ requests sv' out, sv.shutdownDelegation db now deviceIds active = .ok (sv', out) ∧
      List.Forall₂ Sends requests out ∧ Partitions sv.dm.ownedDevices active requests := by
  have hids : deviceIds ≠ [] := by
    intro hnil
    rw [hnil] at howned
    exact hne howned.2.symm
  obtain ⟨devices, sv', out, hall, hcall, hsent⟩ := shutdownDelegation_eq now hactive hpeers hids
    fun d hd => hfound d (howned.mem_iff.mp hd)
  have hmap := map_deviceId_of_delegated hall
  have hdevices : devices ≠ [] := by
    intro hnil
    rw [hnil] at hmap
    exact hids hmap.symm
  rw [← hmap] at howned
  exact ⟨_, sv', out, hcall, hsent,
    partitions_shutdownRequests hpeers hdevices hactive.1 howned⟩

/- Node 1, which knows node 2 as its only peer, with the devices it is to hand over. -/
def departing (owned : Finset Uuid) : Server where
  membership := World.pairServer.membership
  dm := ⟨1, owned, ⟨24, .empty, some owned, 1, false⟩⟩
  localNodeId_dm := World.pairServer.localNodeId_dm

def solePeer : NodeInfo := (World.activeServer 2 World.peerAddr ∅).membership.localNode

theorem departing_active (owned : Finset Uuid) :
    (departing owned).membership.ActiveNodes [solePeer] := by
  refine ⟨List.nodup_singleton _, fun n => ?_⟩
  have hnodes : (departing owned).membership.nodes = (∅ : Table NodeInfo).insert 2 solePeer := rfl
  rw [hnodes, List.mem_singleton]
  constructor
  · intro hn
    rw [hn]
    exact ⟨Finmap.lookup_insert _, rfl⟩
  · intro ⟨hlookup, _⟩
    by_cases hid : n.nodeId = 2
    · rw [hid, Finmap.lookup_insert] at hlookup
      exact (Option.some_injective _ hlookup).symm
    · rw [Finmap.lookup_insert_of_ne _ hid, Finmap.lookup_empty] at hlookup
      cases hlookup

def twoMeters : InnerDB :=
  (InnerDB.new.addDevice ⟨9, none, none, none⟩).addDevice ⟨10, none, none, none⟩

/- Two peers, of which one has nothing to do, and three devices. -/
def busyPeer : NodeInfo := { solePeer with deviceCount := 5 }

def idlePeer : NodeInfo :=
  { solePeer with nodeId := 3, clusterAddr := ⟨.v4 0x7f000001, 7002⟩ }

def departingTrio : Server where
  membership := ((World.activeServer 1 World.homeAddr ∅).membership.addOrUpdateNode
    busyPeer 0).addOrUpdateNode idlePeer 0
  dm := ⟨1, {9, 10, 11}, ⟨24, .empty, some {9, 10, 11}, 1, false⟩⟩
  localNodeId_dm := by decide +kernel

def threeMeters : InnerDB := twoMeters.addDevice ⟨11, none, none, none⟩

/-- Two of the devices go to the peer that has fewer, one to the other. -/
theorem shutdown_requests_partition_trio :
    ((departingTrio.shutdownDelegation threeMeters 0 [9, 10, 11] [busyPeer, idlePeer]).map
        fun sent => sent.2.map fun o => (o.1, o.2.asks)) =
      .ok [(idlePeer.clusterAddr, [9, 10]), (busyPeer.clusterAddr, [11])] ∧
    ∃ requests sv' out,
      departingTrio.shutdownDelegation threeMeters 0 [9, 10, 11] [busyPeer, idlePeer] =
        .ok (sv', out) ∧
      List.Forall₂ Sends requests out ∧
      Partitions {9, 10, 11} [busyPeer, idlePeer] requests := by
  have hactive : departingTrio.membership.ActiveNodes [busyPeer, idlePeer] := by
    refine ⟨by decide, fun n => ?_⟩
    have hnodes : departingTrio.membership.nodes =
      ((∅ : Table NodeInfo).insert 2 busyPeer).insert 3 idlePeer := rfl
    rw [hnodes, List.mem_pair]
    constructor
    · intro hn
      cases hn with
      | inl h =>
        rw [h]
        exact ⟨by decide, rfl⟩
      | inr h =>
        rw [h]
        exact ⟨by decide, rfl⟩
    · intro ⟨hlookup, _⟩
      by_cases hidle : n.nodeId = 3
      · rw [hidle, Finmap.lookup_insert] at hlookup
        exact .inr (Option.some_injective _ hlookup).symm
      · rw [Finmap.lookup_insert_of_ne _ hidle] at hlookup
        by_cases hbusy : n.nodeId = 2
        · rw [hbusy, Finmap.lookup_insert] at hlookup
          exact .inl (Option.some_injective _ hlookup).symm
        · rw [Finmap.lookup_insert_of_ne _ hbusy, Finmap.lookup_empty] at hlookup
          cases hlookup
  have hfound : ∀ d ∈ ({9, 10, 11} : Finset Uuid), d ∈ threeMeters.devices := by
    intro d hd
    rw [Finset.mem_insert, Finset.mem_insert, Finset.mem_singleton] at hd
    simp only [threeMeters, twoMeters, InnerDB.addDevice, Finmap.mem_insert]
    exact hd.elim (fun h => .inr (.inr (.inl h))) (fun h => h.elim (.inr ∘ .inl) .inl)
  refine ⟨by decide +kernel, ?_⟩
  exact shutdown_requests_partition departingTrio threeMeters 0 [9, 10, 11] [busyPeer, idlePeer]
    ⟨by decide, rfl⟩ (Finset.insert_ne_empty _ _) hactive (List.cons_ne_nil _ _) hfound

end Server

end HeadEnd.Cluster
