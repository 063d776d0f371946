import HeadEnd.Cluster.Redistribution
import Mathlib.Algebra.Order.Floor.Div

/-! Shedding devices to nodes with less load. The loops of `rebalance_cluster` carry out a
plan that is laid down beforehand, up to the call that fails if one does. -/
namespace HeadEnd.Cluster
open DeviceManager

/-- What is known of another node. Its load is a floating-point number. -/
structure NodeLoad (F : Type) where
  nodeId : Uuid
  deviceCount : Nat
  loadPercent : F
  maxDeviceSuggested : Nat

/- Floating-point arithmetic is not modelled: its results are whatever they are. -/
structure LoadFigures (F : Type) where
  lt : F → F → Bool
  avgLoad : F
  targetCount : Nat
  acceptableCount : NodeLoad F → Nat

inductive Halt where
  | databaseError
  | indexOutOfBounds
  deriving DecidableEq, Repr

structure Rebalancing where
  db : InnerDB
  dm : DeviceManager
  deviceIdx : Nat
  halt : Option Halt

/-- A device goes to another node. -/
def giveDevice (st : InnerDB × DeviceManager) (p : Uuid × Uuid) : InnerDB × DeviceManager :=
  (st.1.setDeviceOwner p.1 p.2, { st.2 with ownedDevices := st.2.ownedDevices.erase p.1 })

/-- The inner loop, for a number of rounds. -/
def giveDevices (fails : DbCall → Bool) (devicesToGive : List Uuid) (nodeId : Uuid) :
    Nat → Rebalancing → Rebalancing
  | 0, s => s
  | n + 1, s =>
    if devicesToGive.length ≤ s.deviceIdx then s
    else
      match devicesToGive[s.deviceIdx]? with
      | none => { s with halt := some .indexOutOfBounds }
      | some deviceId =>
        if fails (.setDeviceOwner deviceId) then { s with halt := some .databaseError }
        else
          let st := giveDevice (s.db, s.dm) (deviceId, nodeId)
          giveDevices fails devicesToGive nodeId n ⟨st.1, st.2, s.deviceIdx + 1, none⟩

/-- The loop over the nodes, with what each can take. -/
def giveRounds {F : Type} (fails : DbCall → Bool) (devicesToGive : List Uuid)
    (canTake : NodeLoad F → Nat) : List (NodeLoad F) → Rebalancing → Rebalancing
  | [], s => s
  | node :: rest, s =>
    let s' := giveDevices fails devicesToGive node.nodeId (canTake node) s
    if s'.halt.isSome then s'
    else if devicesToGive.length ≤ s'.deviceIdx then s'
    else giveRounds fails devicesToGive canTake rest s'

namespace LoadFigures
variable {F : Type} (fl : LoadFigures F)

/-- The nodes below the average, the least loaded first. -/
def underloaded (others : List (NodeLoad F)) : List (NodeLoad F) :=
  (others.filter fun n => fl.lt n.loadPercent fl.avgLoad).mergeSort
    fun a b => !fl.lt b.loadPercent a.loadPercent

def devicesToShed (myCount localMax : Nat) : Nat :=
  if 0 < localMax then myCount - fl.targetCount else 0

/-- The cast to `u32` of the share may cut it; the sum does not overflow. -/
def maxAcceptableCount (devicesPerNode : Nat) (node : NodeLoad F) : Nat :=
  if 0 < node.maxDeviceSuggested then fl.acceptableCount node
  else node.deviceCount + devicesPerNode % 2 ^ 32

def canTake (devicesPerNode : Nat) (node : NodeLoad F) : Nat :=
  min (fl.maxAcceptableCount devicesPerNode node - node.deviceCount) devicesPerNode

/-- `owned` is the order in which the owned devices are iterated. -/
def rebalanceCluster (fails : DbCall → Bool) (db : InnerDB) (dm : DeviceManager)
    (others : List (NodeLoad F)) (localMax : Nat) (owned : List Uuid) : Rebalancing :=
  let underloaded := fl.underloaded others
  let devicesToShed := fl.devicesToShed dm.ownedDevices.card localMax
  if others = [] ∨ underloaded = [] ∨ devicesToShed = 0 then ⟨db, dm, 0, none⟩
  else
    let devicesPerNode := (devicesToShed + underloaded.length - 1) / underloaded.length
    giveRounds fails (owned.take devicesToShed) (fl.canTake devicesPerNode) underloaded
      ⟨db, dm, 0, none⟩

end LoadFigures

/-- Who is to get which device: in turn, as many as each can take. -/
def allotment {F : Type} (canTake : NodeLoad F → Nat) :
    List Uuid → List (NodeLoad F) → List (Uuid × Uuid)
  | _, [] => []
  | ds, n :: ns =>
    (ds.take (canTake n)).map (·, n.nodeId) ++ allotment canTake (ds.drop (canTake n)) ns

/-- A plan carried out up to the first update that fails. -/
def carryOut (fails : DbCall → Bool) (plan : List (Uuid × Uuid)) (s : Rebalancing) : Rebalancing :=
  let st := (updatesMade fails plan).foldl giveDevice (s.db, s.dm)
  ⟨st.1, st.2, s.deviceIdx + (updatesMade fails plan).length,
    if (updatesMade fails plan).length = plan.length then none else some .databaseError⟩

section Loops
variable {F : Type} {fails : DbCall → Bool} {toGive : List Uuid}

theorem updatesMade_cons (p : Uuid × Uuid) (ps : List (Uuid × Uuid)) :
    updatesMade fails (p :: ps) =
      if fails (.setDeviceOwner p.1) then [] else p :: updatesMade fails ps := by
  rw [updatesMade, List.takeWhile_cons]
  cases fails (.setDeviceOwner p.1) with
  | true => rfl
  | false => rfl

theorem updatesMade_append (ps qs : List (Uuid × Uuid)) :
    updatesMade fails (ps ++ qs) =
      if (updatesMade fails ps).length = ps.length then ps ++ updatesMade fails qs
      else updatesMade fails ps :=
  List.takeWhile_append

theorem carryOut_nil {s : Rebalancing} (hs : s.halt = none) : carryOut fails [] s = s := by
  cases s with
  | mk db dm idx halt =>
    cases hs
    rfl

theorem updatesMade_eq_of_length {ps : List (Uuid × Uuid)}
    (h : (updatesMade fails ps).length = ps.length) : updatesMade fails ps = ps :=
  updatesMade_sublist.eq_of_length h

theorem carryOut_append (ps qs : List (Uuid × Uuid)) (s : Rebalancing) :
    carryOut fails (ps ++ qs) s =
      if (carryOut fails ps s).halt.isSome then carryOut fails ps s
      else carryOut fails qs (carryOut fails ps s) := by
  by_cases h : (updatesMade fails ps).length = ps.length
  · simp only [carryOut, updatesMade_append, updatesMade_eq_of_length h,
      List.foldl_append, List.length_append, Option.isSome_none, Bool.false_eq_true, if_false,
      Nat.add_assoc, Nat.add_left_cancel_iff, if_true]
  · have hle : (updatesMade fails ps).length ≤ ps.length := updatesMade_sublist.length_le
    have hne : (updatesMade fails ps).length ≠ (ps ++ qs).length := by
      rw [List.length_append]
      omega
    simp only [carryOut, updatesMade_append, if_neg h, if_neg hne, Option.isSome_some, if_true]

/-- The inner loop gives the next devices, one in each round. -/
theorem giveDevices_eq (nodeId : Uuid) (n : Nat) {s : Rebalancing} (hs : s.halt = none) :
    giveDevices fails toGive nodeId n s =
      carryOut fails (((toGive.drop s.deviceIdx).take n).map (·, nodeId)) s := by
  induction n generalizing s with
  | zero =>
    rw [List.take_zero, List.map_nil, carryOut_nil hs]
    rfl
  | succ n ih =>
    rw [giveDevices]
    by_cases hidx : toGive.length ≤ s.deviceIdx
    · rw [if_pos hidx, List.drop_of_length_le hidx, List.take_nil, List.map_nil, carryOut_nil hs]
    · have hlt : s.deviceIdx < toGive.length := Nat.lt_of_not_le hidx
      rw [if_neg hidx, List.getElem?_eq_getElem hlt, List.drop_eq_getElem_cons hlt,
        List.take_succ_cons, List.map_cons]
      dsimp only
      rw [ih rfl]
      cases hfail : fails (.setDeviceOwner toGive[s.deviceIdx]) with
      | true => simp [carryOut, updatesMade_cons, hfail]
      | false => simp [carryOut, updatesMade_cons, hfail, Nat.add_assoc, Nat.add_comm 1]

theorem allotment_nil (canTake : NodeLoad F → Nat) (ns : List (NodeLoad F)) :
    allotment canTake [] ns = [] := by
  induction ns with
  | nil => rfl
  | cons n ns ih =>
    rw [allotment, List.take_nil, List.drop_nil, ih]
    rfl

theorem drop_length_take (n : Nat) (l : List Uuid) : l.drop (l.take n).length = l.drop n := by
  rw [List.length_take]
  cases Nat.le_total n l.length with
  | inl h => rw [Nat.min_eq_left h]
  | inr h => rw [Nat.min_eq_right h, List.drop_length, List.drop_of_length_le h]

theorem deviceIdx_carryOut {ps : List (Uuid × Uuid)} {s : Rebalancing}
    (h : (carryOut fails ps s).halt = none) :
    (carryOut fails ps s).deviceIdx = s.deviceIdx + ps.length := by
  by_cases hlen : (updatesMade fails ps).length = ps.length
  · rw [carryOut, hlen]
  · simp only [carryOut, if_neg hlen] at h
    cases h

/-- The loops carry out the allotment. -/
theorem giveRounds_eq (canTake : NodeLoad F → Nat) (ns : List (NodeLoad F)) {s : Rebalancing}
    (hs : s.halt = none) :
    giveRounds fails toGive canTake ns s =
      carryOut fails (allotment canTake (toGive.drop s.deviceIdx) ns) s := by
  induction ns generalizing s with
  | nil =>
    rw [allotment, carryOut_nil hs]
    rfl
  | cons n ns ih =>
    rw [giveRounds, giveDevices_eq n.nodeId (canTake n) hs, allotment, carryOut_append]
    cases hhalt : (carryOut fails
        (((toGive.drop s.deviceIdx).take (canTake n)).map (·, n.nodeId)) s).halt with
    | some h => simp only [Option.isSome_some, if_true]
    | none =>
      have hidx := deviceIdx_carryOut hhalt
      rw [List.length_map] at hidx
      have hrest : (toGive.drop s.deviceIdx).drop (canTake n) = toGive.drop (carryOut fails
          (((toGive.drop s.deviceIdx).take (canTake n)).map (·, n.nodeId)) s).deviceIdx := by
        rw [hidx, ← drop_length_take, List.drop_drop]
      rw [hrest, ← ih hhalt]
      simp only [Option.isSome_none, Bool.false_eq_true, if_false]
      by_cases hend : toGive.length ≤ (carryOut fails
          (((toGive.drop s.deviceIdx).take (canTake n)).map (·, n.nodeId)) s).deviceIdx
      · rw [if_pos hend, ih hhalt, List.drop_of_length_le hend, allotment_nil, carryOut_nil hhalt]
      · rw [if_neg hend]

end Loops

section Allotment
variable {F : Type} {canTake : NodeLoad F → Nat}

theorem map_fst_allotment_sublist (ds : List Uuid) (ns : List (NodeLoad F)) :
    ((allotment canTake ds ns).map Prod.fst).Sublist ds := by
  induction ns generalizing ds with
  | nil => exact List.nil_sublist ds
  | cons n ns ih =>
    have hsplit := (List.Sublist.refl (ds.take (canTake n))).append (ih (ds.drop (canTake n)))
    rw [List.take_append_drop] at hsplit
    rw [allotment, List.map_append, List.map_map]
    simpa [Function.comp_def] using hsplit

theorem exists_node_of_mem_allotment {ds : List Uuid} {ns : List (NodeLoad F)} {p : Uuid × Uuid}
    (hp : p ∈ allotment canTake ds ns) : p.2 ∈ ns.map NodeLoad.nodeId := by
  induction ns generalizing ds with
  | nil => cases hp
  | cons n ns ih =>
    rw [allotment, List.mem_append] at hp
    cases hp with
    | inl hhead =>
      obtain ⟨d, -, rfl⟩ := List.mem_map.mp hhead
      exact List.mem_cons_self
    | inr htail => exact List.mem_cons_of_mem _ (ih htail)

/-- Nobody gets more than it can take. -/
theorem countP_allotment_le {ds : List Uuid} {ns : List (NodeLoad F)} {n : NodeLoad F}
    (hnodup : (ns.map NodeLoad.nodeId).Nodup) (hn : n ∈ ns) :
    (allotment canTake ds ns).countP (fun p => p.2 = n.nodeId) ≤ canTake n := by
  induction ns generalizing ds with
  | nil => cases hn
  | cons m ns ih =>
    obtain ⟨hfresh, hnodup'⟩ := List.nodup_cons.mp hnodup
    rw [allotment, List.countP_append]
    cases List.mem_cons.mp hn with
    | inl heq =>
      subst heq
      have hnone : (allotment canTake (ds.drop (canTake n)) ns).countP
          (fun p => p.2 = n.nodeId) = 0 := by
        refine List.countP_eq_zero.mpr fun p hp heq => hfresh ?_
        rw [← of_decide_eq_true heq]
        exact exists_node_of_mem_allotment hp
      rw [hnone, Nat.add_zero]
      refine List.countP_le_length.trans ?_
      rw [List.length_map]
      exact List.length_take_le _ _
    | inr hrest =>
      have hnone : ((ds.take (canTake m)).map (·, m.nodeId)).countP
          (fun p => p.2 = n.nodeId) = 0 := by
        refine List.countP_eq_zero.mpr fun p hp heq => hfresh ?_
        obtain ⟨d, -, rfl⟩ := List.mem_map.mp hp
        have hid : m.nodeId = n.nodeId := of_decide_eq_true heq
        rw [hid]
        exact List.mem_map_of_mem hrest
      rw [hnone, Nat.zero_add]
      exact ih hnodup' hrest

end Allotment

section Given
variable {ps : List (Uuid × Uuid)}

/-- The database sees the same calls as in a redistribution. -/
theorem foldl_giveDevice_fst (ps : List (Uuid × Uuid)) (db : InnerDB) (dm dm' : DeviceManager) :
    (ps.foldl giveDevice (db, dm)).1 = (ps.foldl assignOrphan (db, dm')).1 := by
  induction ps generalizing db dm dm' with
  | nil => rfl
  | cons p ps ih =>
    rw [List.foldl_cons, List.foldl_cons]
    exact ih _ _ _

theorem foldl_giveDevice_owned (ps : List (Uuid × Uuid)) (st : InnerDB × DeviceManager) :
    (ps.foldl giveDevice st).2.ownedDevices = st.2.ownedDevices \ (ps.map Prod.fst).toFinset := by
  induction ps generalizing st with
  | nil => simp
  | cons p ps ih =>
    rw [List.foldl_cons, ih, List.map_cons, List.toFinset_cons]
    ext d
    simp only [giveDevice, Finset.mem_sdiff, Finset.mem_erase, Finset.mem_insert, not_or]
    exact ⟨fun h => ⟨h.1.2, h.1.1, h.2⟩, fun h => ⟨⟨h.2.1, h.1⟩, h.2.2⟩⟩

theorem foldl_giveDevice_scheduler (ps : List (Uuid × Uuid)) (st : InnerDB × DeviceManager) :
    (ps.foldl giveDevice st).2.scheduler = st.2.scheduler := by
  induction ps generalizing st with
  | nil => rfl
  | cons p ps ih => rw [List.foldl_cons, ih, giveDevice]

end Given

/-- How many of the devices owned before are now another node's. -/
def received (dm : DeviceManager) (s : Rebalancing) (nodeId : Uuid) : Nat :=
  (dm.ownedDevices.filter fun d =>
    d ∉ s.dm.ownedDevices ∧ s.db.owner d = some nodeId).card

/-- Every device is kept or given away, enough are kept, and nobody gets more than its
share or than it can take. -/
structure Rebalanced {F : Type} (fl : LoadFigures F) (dm : DeviceManager)
    (others : List (NodeLoad F)) (localMax : Nat) (s : Rebalancing) : Prop where
  conserved : ∀ d ∈ dm.ownedDevices,
    (d ∈ s.dm.ownedDevices ∧ s.db.owner d = some dm.localNodeId) ∨
      (d ∉ s.dm.ownedDevices ∧
        ∃! t, t ∈ (fl.underloaded others).map NodeLoad.nodeId ∧ s.db.owner d = some t)
  remain : min dm.ownedDevices.card fl.targetCount ≤ s.dm.ownedDevices.card
  share : ∀ n ∈ others, received dm s n.nodeId ≤
    fl.devicesToShed dm.ownedDevices.card localMax ⌈/⌉ (fl.underloaded others).length
  limit : ∀ n ∈ others, 0 < n.maxDeviceSuggested →
    n.deviceCount + received dm s n.nodeId ≤ max n.deviceCount (fl.acceptableCount n)
  in_bounds : s.halt ≠ some .indexOutOfBounds

namespace LoadFigures
variable {F : Type} {fl : LoadFigures F} {fails : DbCall → Bool} {db : InnerDB}
  {dm : DeviceManager} {others : List (NodeLoad F)} {localMax : Nat} {owned : List Uuid}

theorem mem_underloaded {n : NodeLoad F} :
    n ∈ fl.underloaded others ↔ n ∈ others ∧ fl.lt n.loadPercent fl.avgLoad = true := by
  rw [underloaded, List.mem_mergeSort, List.mem_filter]

theorem nodup_underloaded (h : (others.map NodeLoad.nodeId).Nodup) :
    ((fl.underloaded others).map NodeLoad.nodeId).Nodup := by
  have hperm : (fl.underloaded others).Perm
      (others.filter fun n => fl.lt n.loadPercent fl.avgLoad) := List.mergeSort_perm _ _
  rw [(hperm.map NodeLoad.nodeId).nodup_iff]
  exact (List.filter_sublist.map NodeLoad.nodeId).nodup h

/-- The most that a node gets. -/
def fairShare (fl : LoadFigures F) (dm : DeviceManager) (others : List (NodeLoad F))
    (localMax : Nat) : Nat :=
  fl.devicesToShed dm.ownedDevices.card localMax ⌈/⌉ (fl.underloaded others).length

def plan (fl : LoadFigures F) (dm : DeviceManager) (others : List (NodeLoad F)) (localMax : Nat)
    (owned : List Uuid) : List (Uuid × Uuid) :=
  allotment (fl.canTake (fl.fairShare dm others localMax))
    (owned.take (fl.devicesToShed dm.ownedDevices.card localMax)) (fl.underloaded others)

/-- The plan is empty when the call returns early. -/
theorem rebalanceCluster_eq (fl : LoadFigures F) (fails : DbCall → Bool) (db : InnerDB)
    (dm : DeviceManager) (others : List (NodeLoad F)) (localMax : Nat) (owned : List Uuid) :
    fl.rebalanceCluster fails db dm others localMax owned =
      carryOut fails (fl.plan dm others localMax owned) ⟨db, dm, 0, none⟩ := by
  rw [rebalanceCluster]
  dsimp only
  by_cases hearly : others = [] ∨ fl.underloaded others = [] ∨
      fl.devicesToShed dm.ownedDevices.card localMax = 0
  · have hempty : fl.plan dm others localMax owned = [] := by
      rw [plan]
      cases hearly with
      | inl hothers =>
        rw [hothers, underloaded, List.filter_nil, List.mergeSort_nil, allotment]
      | inr hrest =>
        cases hrest with
        | inl hunder => rw [hunder, allotment]
        | inr hshed => rw [hshed, List.take_zero, allotment_nil]
    rw [if_pos hearly, hempty, carryOut_nil rfl]
  · rw [if_neg hearly, ← Nat.ceilDiv_eq_add_pred_div, giveRounds_eq _ _ rfl, List.drop_zero]
    rfl

theorem owned_of_mem_plan (howned : Lists owned dm.ownedDevices) {p : Uuid × Uuid}
    (hp : p ∈ fl.plan dm others localMax owned) : p.1 ∈ dm.ownedDevices := by
  have hsub : ((fl.plan dm others localMax owned).map Prod.fst).Sublist
      (owned.take (fl.devicesToShed dm.ownedDevices.card localMax)) :=
    map_fst_allotment_sublist _ _
  exact howned.mem_iff.mp (List.mem_of_mem_take (hsub.subset (List.mem_map_of_mem hp)))

/-- Everything that the results need to know of the updates made. -/
structure Sound (fl : LoadFigures F) (dm : DeviceManager) (others : List (NodeLoad F))
    (localMax : Nat) (ps : List (Uuid × Uuid)) : Prop where
  nodup : (ps.map Prod.fst).Nodup
  owned : ∀ p ∈ ps, p.1 ∈ dm.ownedDevices
  length_le : ps.length ≤ fl.devicesToShed dm.ownedDevices.card localMax
  target : ∀ p ∈ ps, p.2 ∈ (fl.underloaded others).map NodeLoad.nodeId
  count_le : ∀ n ∈ others,
    ps.countP (fun p => p.2 = n.nodeId) ≤ fl.canTake (fl.fairShare dm others localMax) n

theorem sound_plan (hnodup : (others.map NodeLoad.nodeId).Nodup)
    (howned : Lists owned dm.ownedDevices) :
    Sound fl dm others localMax (fl.plan dm others localMax owned) := by
  have hsub : ((fl.plan dm others localMax owned).map Prod.fst).Sublist
      (owned.take (fl.devicesToShed dm.ownedDevices.card localMax)) :=
    map_fst_allotment_sublist _ _
  have hall := hsub.trans (List.take_sublist _ _)
  have htarget : ∀ p ∈ fl.plan dm others localMax owned,
      p.2 ∈ (fl.underloaded others).map NodeLoad.nodeId :=
    fun p hp => exists_node_of_mem_allotment hp
  refine ⟨hall.nodup howned.1, fun p hp => owned_of_mem_plan howned hp, ?_, htarget,
    fun n hn => ?_⟩
  · have hlen := hsub.length_le
    rw [List.length_map] at hlen
    exact hlen.trans (List.length_take_le _ _)
  · by_cases hin : n ∈ fl.underloaded others
    · exact countP_allotment_le (nodup_underloaded hnodup) hin
    · have hnone : (fl.plan dm others localMax owned).countP (fun p => p.2 = n.nodeId) = 0 := by
        refine List.countP_eq_zero.mpr fun p hp heq => hin ?_
        obtain ⟨m, hm, hid⟩ := List.mem_map.mp (htarget p hp)
        have hmn := List.inj_on_of_nodup_map hnodup (mem_underloaded.mp hm).1 hn
          (hid.trans (of_decide_eq_true heq))
        exact hmn ▸ hm
      rw [hnone]
      exact Nat.zero_le _

theorem Sound.sublist {ps made : List (Uuid × Uuid)} (h : Sound fl dm others localMax ps)
    (hsub : made.Sublist ps) : Sound fl dm others localMax made where
  nodup := (hsub.map Prod.fst).nodup h.nodup
  owned p hp := h.owned p (hsub.subset hp)
  length_le := hsub.length_le.trans h.length_le
  target p hp := h.target p (hsub.subset hp)
  count_le n hn := hsub.countP_le.trans (h.count_le n hn)

section Result
variable {made : List (Uuid × Uuid)} {s : Rebalancing}

theorem Sound.owner (h : Sound fl dm others localMax made)
    (hlocal : ∀ d ∈ dm.ownedDevices, db.owner d = some dm.localNodeId) {d t : Uuid}
    (hp : (d, t) ∈ made) : (made.foldl giveDevice (db, dm)).1.owner d = some t := by
  rw [foldl_giveDevice_fst made db dm dm]
  refine foldl_assignOrphan_owner (db, dm) h.nodup hp ?_
  rw [hlocal d (h.owned _ hp)]
  rfl

theorem Sound.received_le (h : Sound fl dm others localMax made)
    (hlocal : ∀ d ∈ dm.ownedDevices, db.owner d = some dm.localNodeId)
    (hdb : s.db = (made.foldl giveDevice (db, dm)).1)
    (hdm : s.dm = (made.foldl giveDevice (db, dm)).2) (nodeId : Uuid) :
    received dm s nodeId ≤ made.countP (fun p => p.2 = nodeId) := by
  have hsub : (dm.ownedDevices.filter fun d => d ∉ s.dm.ownedDevices ∧
      s.db.owner d = some nodeId) ⊆
      ((made.filter fun p => p.2 = nodeId).map Prod.fst).toFinset := by
    intro d hd
    obtain ⟨howned, hgone, howner⟩ := Finset.mem_filter.mp hd
    rw [hdm, foldl_giveDevice_owned, Finset.mem_sdiff, not_and_not_right] at hgone
    obtain ⟨⟨e, t⟩, hp, rfl⟩ := List.mem_map.mp (List.mem_toFinset.mp (hgone howned))
    rw [hdb, h.owner hlocal hp, Option.some_inj] at howner
    rw [List.mem_toFinset]
    exact List.mem_map_of_mem (List.mem_filter.mpr ⟨hp, decide_eq_true howner⟩)
  rw [List.countP_eq_length_filter, ← List.length_map Prod.fst]
  exact (Finset.card_le_card hsub).trans (List.toFinset_card_le _)

theorem Sound.rebalanced (h : Sound fl dm others localMax made)
    (hlocal : ∀ d ∈ dm.ownedDevices, db.owner d = some dm.localNodeId)
    (hdb : s.db = (made.foldl giveDevice (db, dm)).1)
    (hdm : s.dm = (made.foldl giveDevice (db, dm)).2)
    (hhalt : s.halt ≠ some .indexOutOfBounds) : Rebalanced fl dm others localMax s := by
  have hreceived := h.received_le hlocal hdb hdm
  have howned : s.dm.ownedDevices = dm.ownedDevices \ (made.map Prod.fst).toFinset := by
    rw [hdm, foldl_giveDevice_owned]
  refine ⟨fun d hd => ?_, ?_, fun n hn => ?_, fun n hn hmax => ?_, hhalt⟩
  · rw [howned, Finset.mem_sdiff, List.mem_toFinset, hdb]
    by_cases hgiven : d ∈ made.map Prod.fst
    · obtain ⟨⟨e, t⟩, hp, rfl⟩ := List.mem_map.mp hgiven
      have howner := h.owner hlocal hp
      refine .inr ⟨fun hkept => hkept.2 hgiven, t, ⟨h.target _ hp, howner⟩, fun u hu => ?_⟩
      exact Option.some_injective _ (hu.2.symm.trans howner)
    · refine .inl ⟨⟨hd, hgiven⟩, ?_⟩
      rw [foldl_giveDevice_fst made db dm dm, foldl_assignOrphan_owner_of_notMem _ hgiven]
      exact hlocal d hd
  · have hcard := Finset.le_card_sdiff (made.map Prod.fst).toFinset dm.ownedDevices
    have hlist : (made.map Prod.fst).toFinset.card ≤ made.length := by
      rw [← List.length_map Prod.fst]
      exact List.toFinset_card_le _
    have hlen := h.length_le
    rw [howned]
    unfold devicesToShed at hlen
    split at hlen <;> omega
  · exact (hreceived n.nodeId).trans ((h.count_le n hn).trans (Nat.min_le_right _ _))
  · have htake := (hreceived n.nodeId).trans ((h.count_le n hn).trans (Nat.min_le_left _ _))
    rw [maxAcceptableCount, if_pos hmax] at htake
    omega

end Result

/-- Rebalancing conserves the devices and keeps to the limits, wherever it is stopped. -/
theorem rebalance_conserves (fl : LoadFigures F) (fails : DbCall → Bool) (db : InnerDB)
    (dm : DeviceManager) (others : List (NodeLoad F)) (localMax : Nat) (owned : List Uuid)
    (howned : Lists owned dm.ownedDevices)
    (hlocal : ∀ d ∈ dm.ownedDevices, db.owner d = some dm.localNodeId)
    (hnodup : (others.map NodeLoad.nodeId).Nodup) :
    Rebalanced fl dm others localMax
      (fl.rebalanceCluster fails db dm others localMax owned) := by
  rw [rebalanceCluster_eq]
  have hsound := (sound_plan hnodup howned).sublist
    (updatesMade_sublist : (updatesMade fails (fl.plan dm others localMax owned)).Sublist _)
  refine hsound.rebalanced hlocal rfl rfl ?_
  rw [carryOut]
  dsimp only
  split
  · intro h
    cases h
  · intro h
    cases h

/- Node 1 has two devices, wants one, and knows node 2 to be below the average. -/
def sampleFigures : LoadFigures Nat where
  lt a b := a < b
  avgLoad := 50
  targetCount := 1
  acceptableCount _ := 5

def lightNode : NodeLoad Nat := ⟨2, 0, 10, 10⟩

def heavyManager : DeviceManager := ⟨1, {9, 10}, ⟨4, .empty, some {9, 10}, 1, false⟩⟩

def heavyDb : InnerDB := (InnerDB.new.addDeviceToBucket 9 0 1).addDeviceToBucket 10 1 1

theorem rebalance_conserves_two :
    Rebalanced sampleFigures heavyManager [lightNode] 10 (sampleFigures.rebalanceCluster
      (fun _ => false) heavyDb heavyManager [lightNode] 10 [9, 10]) := by
  have hlocal : ∀ d ∈ ({9, 10} : Finset Uuid), heavyDb.owner d = some 1 := by
    intro d hd
    rw [Finset.mem_insert, Finset.mem_singleton] at hd
    cases hd with
    | inl h =>
      rw [h]
      decide +kernel
    | inr h =>
      rw [h]
      decide +kernel
  exact rebalance_conserves sampleFigures (fun _ => false) heavyDb heavyManager [lightNode] 10
    [9, 10] ⟨by decide, rfl⟩ hlocal (List.nodup_singleton _)

end LoadFigures

end HeadEnd.Cluster
