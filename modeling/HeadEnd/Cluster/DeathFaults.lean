import HeadEnd.Cluster.PeerMessages
import HeadEnd.DeviceManager

/-! The death of a node, processed while calls to the database fail. Both paths
are here: that of the failure detector, which logs an error and goes on, and that
of a NODE_DEAD message, which returns it. -/
namespace HeadEnd.Cluster
open DeviceManager

/-- The calls on the way that can fail. -/
inductive DbCall where
  | updateClusterNodeStatus (nodeId : Uuid)
  | getDevicesByOwner (nodeId : Uuid)
  | setDeviceOwner (deviceId : Uuid)
  deriving DecidableEq, Repr

/-- The owner updates up to the first that fails, and whether all were made. -/
def assignOrphans (fails : DbCall → Bool) :
    List (Uuid × Uuid) → InnerDB × DeviceManager → Bool × InnerDB × DeviceManager
  | [], st => (true, st)
  | p :: ps, st =>
    if fails (.setDeviceOwner p.1) then (false, st)
    else assignOrphans fails ps (assignOrphan st p)

section Assign
variable {fails : DbCall → Bool} {ps : List (Uuid × Uuid)} {d : Uuid}

theorem assignOrphans_localNodeId (ps : List (Uuid × Uuid)) (st : InnerDB × DeviceManager) :
    (assignOrphans fails ps st).2.2.localNodeId = st.2.localNodeId := by
  induction ps generalizing st with
  | nil => rfl
  | cons p ps ih =>
    rw [assignOrphans]
    split
    · rfl
    · rw [ih, assignOrphan_localNodeId]

theorem ne_of_fails {e : Uuid} (hd : fails (.setDeviceOwner d) = true)
    (he : ¬ fails (.setDeviceOwner e) = true) : d ≠ e := by
  intro heq
  rw [heq] at hd
  exact he hd

/-- A device whose update fails keeps its owner: nothing is written after that. -/
theorem assignOrphans_owner_of_fails (st : InnerDB × DeviceManager)
    (hd : fails (.setDeviceOwner d) = true) :
    (assignOrphans fails ps st).2.1.owner d = st.1.owner d := by
  induction ps generalizing st with
  | nil => rfl
  | cons p ps ih =>
    rw [assignOrphans]
    by_cases hp : fails (.setDeviceOwner p.1) = true
    · rw [if_pos hp]
    · rw [if_neg hp, ih]
      exact InnerDB.owner_setDeviceOwner_of_ne (ne_of_fails hd hp)

/-- With no failure this is the whole redistribution. -/
theorem assignOrphans_eq (st : InnerDB × DeviceManager)
    (h : ∀ e ∈ ps.map Prod.fst, fails (.setDeviceOwner e) = false) :
    assignOrphans fails ps st = (true, ps.foldl assignOrphan st) := by
  induction ps generalizing st with
  | nil => rfl
  | cons p ps ih =>
    obtain ⟨hp, hps⟩ := List.forall_mem_cons.mp h
    have hok : ¬ fails (.setDeviceOwner p.1) = true := by simp [hp]
    rw [assignOrphans, if_neg hok, ih _ hps, List.foldl_cons]

theorem assignOrphans_fst_of_fails (st : InnerDB × DeviceManager) (hmem : d ∈ ps.map Prod.fst)
    (hd : fails (.setDeviceOwner d) = true) : (assignOrphans fails ps st).1 = false := by
  induction ps generalizing st with
  | nil => cases hmem
  | cons p ps ih =>
    rw [assignOrphans]
    by_cases hp : fails (.setDeviceOwner p.1) = true
    · rw [if_pos hp]
    · rw [if_neg hp]
      exact ih _ ((List.mem_cons.mp hmem).resolve_left (ne_of_fails hd hp))

end Assign

/-- What a surviving node works on. -/
structure Survivor where
  membership : MembershipList
  db : InnerDB
  dm : DeviceManager
  localNodeId_dm : dm.localNodeId = membership.localNodeId

/-- What a handler leaves, and whether it called `redistribute_from_failed`. -/
structure Aftermath where
  node : Survivor
  redistributed : Bool

namespace Survivor

def markDead (s : Survivor) (nodeId : Uuid) : Survivor where
  membership := s.membership.markDead nodeId
  db := s.db
  dm := s.dm
  localNodeId_dm := by
    rw [MembershipList.localNodeId, MembershipList.markDead_localNode]
    exact s.localNodeId_dm

def nextSeq (s : Survivor) : Survivor := { s with membership := s.membership.nextSeq }

/-- The count is cast to `u32`. -/
def syncStats (s : Survivor) : Survivor :=
  { s with
    membership := s.membership.updateLocalStats s.membership.localNode.bucketCount
      (UInt32.ofNat s.dm.ownedDevices.card) }

def removeNode (s : Survivor) (nodeId : Uuid) : Survivor :=
  { s with membership := s.membership.removeNode nodeId }

def plan (s : Survivor) (active : List NodeInfo) (orphaned : List Uuid) : List (Uuid × Uuid) :=
  redistributionPlan (allNodes s.dm.localNodeId s.dm.ownedDevices.card
    (MembershipList.otherActiveNodes active)) orphaned

/-- `redistribute_from_failed`, and whether it returned `Ok`. The active nodes and
the orphans are in the order in which they were listed. -/
def redistributeFromFailed (s : Survivor) (fails : DbCall → Bool) (failed : Uuid)
    (active : List NodeInfo) (orphaned : List Uuid) : Bool × Survivor :=
  if fails (.getDevicesByOwner failed) then (false, s)
  else
    ((assignOrphans fails (s.plan active orphaned) (s.db, s.dm)).1,
      { s with
        db := (assignOrphans fails (s.plan active orphaned) (s.db, s.dm)).2.1
        dm := (assignOrphans fails (s.plan active orphaned) (s.db, s.dm)).2.2
        localNodeId_dm := by
          rw [assignOrphans_localNodeId]
          exact s.localNodeId_dm })

/-- The failure detector's path. -/
def handleDeadNode (s : Survivor) (fails : DbCall → Bool) (failed : Uuid)
    (active : List NodeInfo) (orphaned : List Uuid) : Aftermath :=
  if (s.membership.getNode failed).isSome then
    -- a failed status update is logged, and so is a failed redistribution
    let s' := ((s.markDead failed).nextSeq.redistributeFromFailed fails failed active orphaned).2
    ⟨s'.syncStats.removeNode failed, true⟩
  else ⟨s, false⟩

/-- The path of a NODE_DEAD message. -/
def handleNodeDead (s : Survivor) (fails : DbCall → Bool) (failed : Uuid)
    (active : List NodeInfo) (orphaned : List Uuid) : Aftermath :=
  if fails (.updateClusterNodeStatus failed) then ⟨s.markDead failed, false⟩
  else
    let r := (s.markDead failed).redistributeFromFailed fails failed active orphaned
    if r.1 then ⟨r.2.syncStats.removeNode failed, true⟩ else ⟨r.2, true⟩

/-- The detector still watches the node, or a further NODE_DEAD has its devices
redistributed. -/
def Repeats (s : Survivor) (failed : Uuid) : Prop :=
  (∃ n, s.membership.nodes.lookup failed = some n ∧ (n.status = .active ∨ n.status = .suspect)) ∨
    ∀ active orphaned,
      (s.handleNodeDead (fun _ => false) failed active orphaned).redistributed = true

/-- The death is fully processed, or can be processed again. -/
def Settled (s : Survivor) (failed : Uuid) : Prop :=
  s.db.getDevicesByOwner failed = ∅ ∨
    ((s.membership.getNode failed).isSome ∧ s.Repeats failed)

section Redistribute
variable {s : Survivor} {fails : DbCall → Bool} {failed d : Uuid} {active : List NodeInfo}
  {orphaned : List Uuid}

/-- No database call of the redistribution fails. -/
def NoFault (s : Survivor) (fails : DbCall → Bool) (failed : Uuid) : Prop :=
  fails (.getDevicesByOwner failed) = false ∧
    ∀ d ∈ s.db.getDevicesByOwner failed, fails (.setDeviceOwner d) = false

/-- An orphan goes to the local node or to one that was listed as active. -/
theorem target_of_mem_plan {t : Uuid} (h : (d, t) ∈ s.plan active orphaned) :
    t = s.membership.localNodeId ∨ t ∈ active.map NodeInfo.nodeId := by
  obtain ⟨i, -, rfl⟩ := mem_redistributionPlan.mp h
  obtain ⟨count, hget⟩ := targetOf_eq (allNodes_length_pos s.dm.localNodeId
    s.dm.ownedDevices.card (MembershipList.otherActiveNodes active)) i
  have hmem := List.mem_of_getElem? hget
  rw [allNodes, List.mem_insertionSort, List.mem_append, List.mem_singleton] at hmem
  cases hmem with
  | inl hother =>
    obtain ⟨n, hn, hpair⟩ := List.mem_map.mp hother
    exact .inr (List.mem_map.mpr ⟨n, hn, congrArg Prod.fst hpair⟩)
  | inr hlocal => exact .inl ((congrArg Prod.fst hlocal).trans s.localNodeId_dm)

theorem redistributeFromFailed_membership :
    (s.redistributeFromFailed fails failed active orphaned).2.membership = s.membership := by
  unfold redistributeFromFailed
  split <;> rfl

theorem redistributeFromFailed_of_query_fails (h : fails (.getDevicesByOwner failed) = true) :
    s.redistributeFromFailed fails failed active orphaned = (false, s) := by
  rw [redistributeFromFailed, if_pos h]

theorem redistributeFromFailed_fst (h : fails (.getDevicesByOwner failed) = false) :
    (s.redistributeFromFailed fails failed active orphaned).1 =
      (assignOrphans fails (s.plan active orphaned) (s.db, s.dm)).1 := by
  simp [redistributeFromFailed, h]

theorem redistributeFromFailed_db (h : fails (.getDevicesByOwner failed) = false) :
    (s.redistributeFromFailed fails failed active orphaned).2.db =
      (assignOrphans fails (s.plan active orphaned) (s.db, s.dm)).2.1 := by
  simp [redistributeFromFailed, h]

theorem map_fst_plan : (s.plan active orphaned).map Prod.fst = orphaned :=
  map_fst_redistributionPlan _ _

/-- Without a fault every owner update of the plan is made. -/
theorem assignOrphans_plan (horphaned : Lists orphaned (s.db.getDevicesByOwner failed))
    (hok : s.NoFault fails failed) :
    assignOrphans fails (s.plan active orphaned) (s.db, s.dm) =
      (true, (s.plan active orphaned).foldl assignOrphan (s.db, s.dm)) := by
  refine assignOrphans_eq _ ?_
  rw [map_fst_plan]
  exact fun d hd => hok.2 d (horphaned.mem_iff.mp hd)

/-- After a complete redistribution no device is left with the failed node. -/
theorem getDevicesByOwner_redistributed (hlocal : failed ≠ s.membership.localNodeId)
    (hactive : failed ∉ active.map NodeInfo.nodeId)
    (horphaned : Lists orphaned (s.db.getDevicesByOwner failed)) (hok : s.NoFault fails failed) :
    (s.redistributeFromFailed fails failed active orphaned).2.db.getDevicesByOwner failed = ∅ := by
  have hfst : (s.plan active orphaned).map Prod.fst = orphaned := map_fst_plan
  rw [redistributeFromFailed_db hok.1, assignOrphans_plan horphaned hok,
    Finset.eq_empty_iff_forall_notMem]
  intro d hd
  rw [InnerDB.mem_getDevicesByOwner] at hd
  by_cases horphan : d ∈ orphaned
  · obtain ⟨p, hp, hpd⟩ := List.mem_map.mp (hfst.symm ▸ horphan)
    obtain ⟨e, t⟩ := p
    obtain rfl : e = d := hpd
    have howner : (s.db.owner e).isSome := by
      rw [InnerDB.mem_getDevicesByOwner.mp (horphaned.mem_iff.mp horphan)]
      rfl
    rw [foldl_assignOrphan_owner (s.db, s.dm) (hfst.symm ▸ horphaned.1) hp howner] at hd
    obtain rfl := Option.some.inj hd
    exact (target_of_mem_plan hp).elim hlocal hactive
  · rw [foldl_assignOrphan_owner_of_notMem (s.db, s.dm) (hfst.symm ▸ horphan)] at hd
    exact horphan (horphaned.mem_iff.mpr (InnerDB.mem_getDevicesByOwner.mpr hd))

/-- A fault leaves the device whose update failed, or all of them, where they were. -/
theorem owner_of_fault (active : List NodeInfo) (orphaned : List Uuid)
    (hd : d ∈ s.db.getDevicesByOwner failed)
    (hfault : fails (.getDevicesByOwner failed) = true ∨ fails (.setDeviceOwner d) = true) :
    d ∈ (s.redistributeFromFailed fails failed active orphaned).2.db.getDevicesByOwner failed := by
  cases hquery : fails (.getDevicesByOwner failed) with
  | true =>
    rw [redistributeFromFailed_of_query_fails hquery]
    exact hd
  | false =>
    have hset := hfault.resolve_left (by simp [hquery])
    rw [redistributeFromFailed_db hquery, InnerDB.mem_getDevicesByOwner,
      assignOrphans_owner_of_fails _ hset]
    exact InnerDB.mem_getDevicesByOwner.mp hd

/-- The devices of the failed node are gone exactly if there were none or no call
failed. -/
theorem redistributed_iff (hlocal : failed ≠ s.membership.localNodeId)
    (hactive : failed ∉ active.map NodeInfo.nodeId)
    (horphaned : Lists orphaned (s.db.getDevicesByOwner failed)) :
    (s.redistributeFromFailed fails failed active orphaned).2.db.getDevicesByOwner failed = ∅ ↔
      s.db.getDevicesByOwner failed = ∅ ∨ s.NoFault fails failed := by
  constructor
  · intro hempty
    have hnone : ∀ d ∈ s.db.getDevicesByOwner failed,
        ¬ (fails (.getDevicesByOwner failed) = true ∨ fails (.setDeviceOwner d) = true) := by
      intro d hd hfault
      have hmem := owner_of_fault active orphaned hd hfault
      rw [hempty] at hmem
      exact absurd hmem (Finset.notMem_empty d)
    obtain hz | ⟨d, hd⟩ := (s.db.getDevicesByOwner failed).eq_empty_or_nonempty
    · exact .inl hz
    · refine .inr ⟨?_, ?_⟩
      · exact Bool.eq_false_iff.mpr fun hq => hnone d hd (.inl hq)
      · exact fun e he => Bool.eq_false_iff.mpr fun hq => hnone e he (.inr hq)
  · intro h
    cases h with
    | inl hz =>
      cases hquery : fails (.getDevicesByOwner failed) with
      | true =>
        rw [redistributeFromFailed_of_query_fails hquery]
        exact hz
      | false =>
        refine getDevicesByOwner_redistributed hlocal hactive horphaned ⟨hquery, ?_⟩
        rw [hz]
        exact fun d hd => absurd hd (Finset.notMem_empty d)
    | inr hok => exact getDevicesByOwner_redistributed hlocal hactive horphaned hok

theorem noFault_of_ok (horphaned : Lists orphaned (s.db.getDevicesByOwner failed))
    (h : (s.redistributeFromFailed fails failed active orphaned).1 = true) :
    s.NoFault fails failed := by
  cases hquery : fails (.getDevicesByOwner failed) with
  | true =>
    rw [redistributeFromFailed_of_query_fails hquery] at h
    cases h
  | false =>
    rw [redistributeFromFailed_fst hquery] at h
    refine ⟨hquery, fun d hd => Bool.eq_false_iff.mpr fun hset => ?_⟩
    have hmem : d ∈ (s.plan active orphaned).map Prod.fst := by
      rw [map_fst_plan]
      exact horphaned.mem_iff.mpr hd
    rw [assignOrphans_fst_of_fails _ hmem hset] at h
    cases h

end Redistribute

section Settled
variable {s : Survivor} {fails : DbCall → Bool} {failed : Uuid} {active : List NodeInfo}
  {orphaned : List Uuid}

theorem repeats (s : Survivor) (failed : Uuid) : s.Repeats failed := by
  refine .inr fun active orphaned => ?_
  unfold handleNodeDead
  dsimp only
  split
  · contradiction
  · split <;> rfl

theorem settled_iff : s.Settled failed ↔
    s.db.getDevicesByOwner failed = ∅ ∨ failed = s.membership.localNodeId ∨
      failed ∈ s.membership.nodes := by
  rw [Settled, and_iff_left (s.repeats failed), MembershipList.getNode_isSome_iff]

/-- The node is gone from the list, unless it is the local one. -/
theorem settled_removeNode_iff : (s.syncStats.removeNode failed).Settled failed ↔
    s.db.getDevicesByOwner failed = ∅ ∨ failed = s.membership.localNodeId := by
  have hgone : failed ∉ s.membership.nodes.erase failed := Finmap.notMem_erase_self
  rw [settled_iff]
  exact or_congr_right (or_iff_left hgone)

theorem mem_markDead : failed ∈ (s.markDead failed).membership.nodes ↔
    failed ∈ s.membership.nodes := by
  rw [← Finmap.lookup_isSome, ← Finmap.lookup_isSome]
  simp only [markDead, MembershipList.markDead, MembershipList.lookup_modify_self,
    Option.isSome_map]

theorem markDead_localNodeId :
    (s.markDead failed).membership.localNodeId = s.membership.localNodeId :=
  congrArg NodeInfo.nodeId MembershipList.markDead_localNode

/-- A node marked Dead is not listed as active. -/
theorem failed_notMem_active (h : (s.membership.markDead failed).ActiveNodes active) :
    failed ∉ active.map NodeInfo.nodeId := by
  intro hmem
  obtain ⟨n, hn, rfl⟩ := List.mem_map.mp hmem
  obtain ⟨hlookup, havail⟩ := (h.2 n).mp hn
  rw [MembershipList.markDead, MembershipList.lookup_modify_self,
    Option.map_eq_some_iff] at hlookup
  obtain ⟨m, -, rfl⟩ := hlookup
  simp [NodeInfo.isAvailable] at havail

variable (hactive : (s.membership.markDead failed).ActiveNodes active)
  (horphaned : Lists orphaned (s.db.getDevicesByOwner failed))
include hactive horphaned

theorem handleDeadNode_settled_iff :
    (s.handleDeadNode fails failed active orphaned).node.Settled failed ↔
      failed = s.membership.localNodeId ∨ s.db.getDevicesByOwner failed = ∅ ∨
        (failed ∈ s.membership.nodes ∧ s.NoFault fails failed) := by
  have hid : (s.markDead failed).nextSeq.membership.localNodeId = s.membership.localNodeId :=
    markDead_localNodeId
  rw [handleDeadNode]
  split
  next hknown =>
    rw [settled_removeNode_iff, redistributeFromFailed_membership, hid]
    by_cases hlocal : failed = s.membership.localNodeId
    · exact iff_of_true (.inr hlocal) (.inl hlocal)
    · have hmem := (MembershipList.getNode_isSome_iff.mp hknown).resolve_left hlocal
      rw [or_iff_left hlocal, or_iff_right hlocal, and_iff_right hmem]
      exact redistributed_iff (hid ▸ hlocal) (failed_notMem_active hactive) horphaned
  next hunknown =>
    obtain ⟨hlocal, hmem⟩ := not_or.mp (mt MembershipList.getNode_isSome_iff.mpr hunknown)
    rw [settled_iff]
    simp only [hlocal, hmem, false_and, or_false, false_or]

theorem handleNodeDead_settled_iff :
    (s.handleNodeDead fails failed active orphaned).node.Settled failed ↔
      failed = s.membership.localNodeId ∨ s.db.getDevicesByOwner failed = ∅ ∨
        failed ∈ s.membership.nodes ∨
        (fails (.updateClusterNodeStatus failed) = false ∧ s.NoFault fails failed) := by
  have hid : (s.markDead failed).membership.localNodeId = s.membership.localNodeId :=
    markDead_localNodeId
  cases hstatus : fails (.updateClusterNodeStatus failed) with
  | true =>
    rw [handleNodeDead, if_pos hstatus, settled_iff, hid, mem_markDead]
    simp only [Bool.true_eq_false, false_and, or_false]
    exact or_left_comm
  | false =>
    have hfail : ¬ fails (.updateClusterNodeStatus failed) = true := by simp [hstatus]
    rw [handleNodeDead, if_neg hfail]
    by_cases hlocal : failed = s.membership.localNodeId
    · refine iff_of_true ?_ (.inl hlocal)
      dsimp only
      split
      · rw [settled_removeNode_iff, redistributeFromFailed_membership, hid]
        exact .inr hlocal
      · rw [settled_iff, redistributeFromFailed_membership, hid]
        exact .inr (.inl hlocal)
    · have horph : Lists orphaned ((s.markDead failed).db.getDevicesByOwner failed) := horphaned
      have hredist : _ ↔ _ ∨ (s.markDead failed).NoFault fails failed :=
        redistributed_iff (hid ▸ hlocal) (failed_notMem_active hactive) horph
      dsimp only
      split
      next hok =>
        have hnone := noFault_of_ok horph hok
        rw [settled_removeNode_iff, redistributeFromFailed_membership, hid]
        refine iff_of_true (.inl (hredist.mpr (.inr hnone))) ?_
        exact .inr (.inr (.inr ⟨rfl, hnone⟩))
      next hok =>
        rw [settled_iff, redistributeFromFailed_membership, hid, mem_markDead, hredist]
        simp only [hlocal, false_or, true_and]
        exact or_right_comm.trans or_assoc

/-- A death is fully processed, or can be processed again, exactly then. -/
theorem death_settled_iff :
    ((s.handleDeadNode fails failed active orphaned).node.Settled failed ↔
      failed = s.membership.localNodeId ∨ s.db.getDevicesByOwner failed = ∅ ∨
        (failed ∈ s.membership.nodes ∧ s.NoFault fails failed)) ∧
    ((s.handleNodeDead fails failed active orphaned).node.Settled failed ↔
      failed = s.membership.localNodeId ∨ s.db.getDevicesByOwner failed = ∅ ∨
        failed ∈ s.membership.nodes ∨
        (fails (.updateClusterNodeStatus failed) = false ∧ s.NoFault fails failed)) :=
  ⟨handleDeadNode_settled_iff hactive horphaned, handleNodeDead_settled_iff hactive horphaned⟩

end Settled

/- Node 1 has node 2 in its list as Suspect; device 9 belongs to node 2. -/
def suspectTwo : NodeInfo :=
  { NodeInfo.newLocal 2 "node-2" remoteAddr 6565 0 with status := .suspect }

def survivorOne : Survivor where
  membership := (MembershipList.new peerConfig 0).addOrUpdateNode suspectTwo 0
  db := InnerDB.new.addDeviceToBucket 9 0 2
  dm := ⟨1, ∅, ⟨48, .empty, some ∅, 1, false⟩⟩
  localNodeId_dm := rfl

theorem lookup_survivorOne_of_ne {id : Uuid} (h : id ≠ 2) :
    survivorOne.membership.nodes.lookup id = none :=
  (Finmap.lookup_insert_of_ne _ h).trans (Finmap.lookup_empty id)

/-- Nobody is left to share with when the only other node is dead. -/
theorem activeNodes_markDead_nil {ml : MembershipList} {failed : Uuid}
    (h : ∀ id, id ≠ failed → ml.nodes.lookup id = none) : (ml.markDead failed).ActiveNodes [] := by
  refine ⟨List.nodup_nil, fun n => ⟨fun h => absurd h List.not_mem_nil, fun hn => ?_⟩⟩
  obtain ⟨hlookup, havail⟩ := hn
  by_cases hid : n.nodeId = failed
  · rw [hid, MembershipList.markDead, MembershipList.lookup_modify_self,
      Option.map_eq_some_iff] at hlookup
    obtain ⟨m, -, rfl⟩ := hlookup
    simp [NodeInfo.isAvailable] at havail
  · rw [MembershipList.lookup_markDead_of_ne hid, h n.nodeId hid] at hlookup
    cases hlookup

theorem survivorOne_active : (survivorOne.membership.markDead 2).ActiveNodes [] :=
  activeNodes_markDead_nil fun _ => lookup_survivorOne_of_ne

theorem survivorOne_orphaned : Lists [9] (survivorOne.db.getDevicesByOwner 2) :=
  ⟨List.nodup_singleton 9, by decide +kernel⟩

/-- The detector's path without a fault, and the message's with every call failing. -/
theorem death_settled_two :
    (survivorOne.handleDeadNode (fun _ => false) 2 [] [9]).node.Settled 2 ∧
      (survivorOne.handleNodeDead (fun _ => true) 2 [] [9]).node.Settled 2 := by
  have hmem : (2 : Uuid) ∈ survivorOne.membership.nodes := by decide +kernel
  constructor
  · refine (death_settled_iff survivorOne_active survivorOne_orphaned).1.mpr ?_
    exact .inr (.inr ⟨hmem, rfl, fun _ _ => rfl⟩)
  · refine (death_settled_iff survivorOne_active survivorOne_orphaned).2.mpr ?_
    exact .inr (.inr (.inl hmem))

/-- The owner query fails; the detector removes the node all the same. -/
theorem death_not_settled :
    ¬ ∀ (s : Survivor) (fails : DbCall → Bool) (failed : Uuid) (active : List NodeInfo)
      (orphaned : List Uuid), (s.membership.markDead failed).ActiveNodes active →
      Lists orphaned (s.db.getDevicesByOwner failed) →
      (s.handleDeadNode fails failed active orphaned).node.Settled failed ∧
        (s.handleNodeDead fails failed active orphaned).node.Settled failed := by
  intro h
  have hsettled := (h survivorOne (fun call => call = .getDevicesByOwner 2) 2 [] [9]
    survivorOne_active survivorOne_orphaned).1
  have hcause := (handleDeadNode_settled_iff survivorOne_active survivorOne_orphaned).mp hsettled
  have hlocal : (2 : Uuid) ≠ survivorOne.membership.localNodeId := by decide +kernel
  have hdevices : survivorOne.db.getDevicesByOwner 2 ≠ ∅ := by decide +kernel
  have hquery := ((hcause.resolve_left hlocal).resolve_left hdevices).2.1
  exact absurd hquery (by simp)

end Survivor

end HeadEnd.Cluster
