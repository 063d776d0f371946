import HeadEnd.Cluster.DeathFaults
import HeadEnd.Lib.Balance
import Mathlib.Data.List.TakeWhile

/-! What the redistribution of a failed node's devices does to the owners, up to the
call that fails if one does, and how evenly it shares them out. -/
namespace HeadEnd.Cluster
open DeviceManager Balance

/-- `redistribute_from_failed` with owner updates that may fail, and whether it returned
`Ok`. `orphaned` is what the database lists as owned by the failed node. -/
def redistributeOrphans (fails : DbCall → Bool) (db : InnerDB) (dm : DeviceManager)
    (others : List (Uuid × Nat)) (orphaned : List Uuid) : Bool × InnerDB × DeviceManager :=
  if orphaned = [] then (true, db, dm)
  else
    assignOrphans fails
      (redistributionPlan (allNodes dm.localNodeId dm.ownedDevices.card others) orphaned) (db, dm)

/-- The owner updates that are made: those before the first that fails. -/
def updatesMade (fails : DbCall → Bool) (ps : List (Uuid × Uuid)) : List (Uuid × Uuid) :=
  ps.takeWhile fun p => !fails (.setDeviceOwner p.1)

section Made
variable {fails : DbCall → Bool} {ps : List (Uuid × Uuid)}

theorem assignOrphans_snd (ps : List (Uuid × Uuid)) (st : InnerDB × DeviceManager) :
    (assignOrphans fails ps st).2 = (updatesMade fails ps).foldl assignOrphan st := by
  induction ps generalizing st with
  | nil => rfl
  | cons p ps ih =>
    rw [assignOrphans, updatesMade, List.takeWhile_cons]
    by_cases hp : fails (.setDeviceOwner p.1) = true
    · simp [hp]
    · simp only [hp, Bool.not_false, if_true, Bool.false_eq_true, if_false, List.foldl_cons]
      exact ih _

theorem updatesMade_sublist : (updatesMade fails ps).Sublist ps := List.takeWhile_sublist _

theorem updatesMade_eq_self (h : ∀ e ∈ ps.map Prod.fst, fails (.setDeviceOwner e) = false) :
    updatesMade fails ps = ps := by
  refine List.takeWhile_eq_self_iff.mpr fun p hp => ?_
  rw [h p.1 (List.mem_map_of_mem hp), Bool.not_false]

end Made

theorem redistributeOrphans_snd (fails : DbCall → Bool) (db : InnerDB) (dm : DeviceManager)
    (others : List (Uuid × Nat)) (orphaned : List Uuid) :
    (redistributeOrphans fails db dm others orphaned).2 =
      (updatesMade fails (redistributionPlan
        (allNodes dm.localNodeId dm.ownedDevices.card others) orphaned)).foldl
          assignOrphan (db, dm) := by
  rw [redistributeOrphans]
  by_cases h : orphaned = []
  · rw [if_pos h, h]
    rfl
  · rw [if_neg h, assignOrphans_snd]

theorem redistributeOrphans_localNodeId (fails : DbCall → Bool) (db : InnerDB)
    (dm : DeviceManager) (others : List (Uuid × Nat)) (orphaned : List Uuid) :
    (redistributeOrphans fails db dm others orphaned).2.2.localNodeId = dm.localNodeId := by
  rw [redistributeOrphans]
  split
  · rfl
  · rw [assignOrphans_localNodeId]

section Sorted
variable {localId : Uuid} {ownedCount : Nat} {others : List (Uuid × Nat)}

theorem allNodes_perm : (allNodes localId ownedCount others).Perm
    (others ++ [(localId, ownedCount)]) :=
  List.perm_insertionSort _ _

theorem nodup_allNodes (hnodup : (others.map Prod.fst).Nodup)
    (hlocal : localId ∉ others.map Prod.fst) :
    ((allNodes localId ownedCount others).map Prod.fst).Nodup := by
  rw [(allNodes_perm.map Prod.fst).nodup_iff, List.map_append, List.nodup_append]
  refine ⟨hnodup, List.nodup_singleton _, ?_⟩
  intro a ha b hb hab
  rw [List.map_singleton, List.mem_singleton] at hb
  rw [hab, hb] at ha
  exact hlocal ha

/-- The least loaded come first. -/
theorem allNodes_sorted : (allNodes localId ownedCount others).Pairwise (fun a b => a.2 ≤ b.2) :=
  Balance.pairwise_insertionSort_count Prod.snd _

end Sorted

section Turns
variable {nodes : List (Uuid × Nat)} {orphaned : List Uuid} {j : Nat}

/-- With distinct ids a node is the target exactly in its turns. -/
theorem targetOf_eq_iff (hnodup : (nodes.map Prod.fst).Nodup) (hj : j < nodes.length) (i : Nat) :
    targetOf nodes i = nodes[j].1 ↔ i % nodes.length = j := by
  have hi : i % nodes.length < nodes.length := Nat.mod_lt i (Nat.zero_lt_of_lt hj)
  have hinj : (nodes.map Prod.fst)[i % nodes.length]? = (nodes.map Prod.fst)[j]? ↔
      i % nodes.length = j :=
    List.getElem?_inj (by rwa [List.length_map]) hnodup
  rw [← hinj]
  simp [targetOf, List.getElem?_eq_getElem hi, List.getElem?_eq_getElem hj]

/-- How many orphans a node is the target of. -/
theorem countP_plan (hnodup : (nodes.map Prod.fst).Nodup) (hj : j < nodes.length) :
    (redistributionPlan nodes orphaned).countP (fun p => p.2 = nodes[j].1) =
      turns nodes.length orphaned.length j := by
  have hsnd : orphaned.zipIdx.map Prod.snd = List.range orphaned.length := by
    simp [List.range_eq_range']
  rw [redistributionPlan, List.countP_map, turns, ← hsnd, List.countP_map]
  refine List.countP_congr fun p _ => ?_
  simp [targetOf_eq_iff hnodup hj]

end Turns

/-- The orphans that the owner updates reach: those before the first that fails. -/
def reached (fails : DbCall → Bool) (orphaned : List Uuid) : List Uuid :=
  orphaned.takeWhile fun d => !fails (.setDeviceOwner d)

/-- The devices of the failed node that belong to `n` afterwards. -/
def inherited (failed n : Uuid) (before after : InnerDB) : Finset Uuid :=
  before.getDevicesByOwner failed ∩ after.getDevicesByOwner n

/-- What is left when the orphans `moved` have been given away: each of them has one of the heirs
as its owner, the rest stay with the failed node, and every other device is as it was. -/
structure Redistributed (failed : Uuid) (heirs : List (Uuid × Nat)) (moved : List Uuid)
    (st st' : InnerDB × DeviceManager) : Prop where
  kept_or_assigned : ∀ d, st.1.owner d = some failed →
    (d ∉ moved ∧ st'.1.owner d = some failed) ∨
      (d ∈ moved ∧ ∃! t, t ∈ heirs.map Prod.fst ∧ st'.1.owner d = some t)
  mem_owned_iff : ∀ d, st.1.owner d = some failed → d ∉ st.2.ownedDevices →
    (d ∈ st'.2.ownedDevices ↔ d ∈ moved ∧ st'.1.owner d = some st.2.localNodeId)
  others : ∀ d, st.1.owner d ≠ some failed →
    st'.1.owner d = st.1.owner d ∧ (d ∈ st'.2.ownedDevices ↔ d ∈ st.2.ownedDevices)

/-- Everything is shared out, no heir gets two more than another, and who gets one more
had no more devices before. -/
structure SharedFairly (failed : Uuid) (heirs : List (Uuid × Nat))
    (st st' : InnerDB × DeviceManager) : Prop where
  all_assigned : ∀ d, st.1.owner d = some failed → ∃ t ∈ heirs.map Prod.fst, st'.1.owner d = some t
  nothing_left : failed ≠ st.2.localNodeId → st'.1.getDevicesByOwner failed = ∅
  even : ∀ a ∈ heirs, ∀ b ∈ heirs,
    (inherited failed a.1 st.1 st'.1).card ≤ (inherited failed b.1 st.1 st'.1).card + 1
  extra : ∀ a ∈ heirs, ∀ b ∈ heirs,
    (inherited failed b.1 st.1 st'.1).card < (inherited failed a.1 st.1 st'.1).card → a.2 ≤ b.2

theorem map_fst_updatesMade (fails : DbCall → Bool) (nodes : List (Uuid × Nat))
    (orphaned : List Uuid) : (updatesMade fails (redistributionPlan nodes orphaned)).map Prod.fst =
      reached fails orphaned := by
  calc (updatesMade fails (redistributionPlan nodes orphaned)).map Prod.fst
      = ((redistributionPlan nodes orphaned).map Prod.fst).takeWhile
          fun d => !fails (.setDeviceOwner d) := by simp [updatesMade, List.takeWhile_map,
            Function.comp_def]
    _ = reached fails orphaned := by rw [map_fst_redistributionPlan, reached]

section Result
variable {fails : DbCall → Bool} {failed : Uuid} {db : InnerDB} {dm : DeviceManager}
  {nodes heirs : List (Uuid × Nat)} {orphaned : List Uuid} {made : List (Uuid × Uuid)}

theorem mem_nodes_of_plan (hpos : 0 < nodes.length) {p : Uuid × Uuid}
    (hp : p ∈ redistributionPlan nodes orphaned) : p.1 ∈ orphaned ∧ p.2 ∈ nodes.map Prod.fst := by
  obtain ⟨i, hi, ht⟩ := mem_redistributionPlan.mp hp
  obtain ⟨count, hget⟩ := targetOf_eq hpos i
  refine ⟨List.mem_of_getElem? hi, ?_⟩
  rw [← ht]
  exact List.mem_map_of_mem (List.mem_of_getElem? hget)

theorem nodup_made (horphaned : Lists orphaned (db.getDevicesByOwner failed))
    (hmade : made.Sublist (redistributionPlan nodes orphaned)) : (made.map Prod.fst).Nodup := by
  refine (hmade.map Prod.fst).nodup ?_
  rw [map_fst_redistributionPlan]
  exact horphaned.1

theorem owner_of_mem_made (horphaned : Lists orphaned (db.getDevicesByOwner failed))
    (hmade : made.Sublist (redistributionPlan nodes orphaned)) {d : Uuid}
    (hd : d ∈ made.map Prod.fst) : db.owner d = some failed := by
  have hmem := (hmade.map Prod.fst).subset hd
  rw [map_fst_redistributionPlan, horphaned.mem_iff] at hmem
  exact InnerDB.mem_getDevicesByOwner.mp hmem

/-- An update is made for a device exactly if the device is reached, and its target is then
what the database says. -/
theorem mem_made_iff (horphaned : Lists orphaned (db.getDevicesByOwner failed))
    (hmade : made.Sublist (redistributionPlan nodes orphaned)) {d t : Uuid} :
    (d, t) ∈ made ↔
      d ∈ made.map Prod.fst ∧ (made.foldl assignOrphan (db, dm)).1.owner d = some t := by
  have howner : ∀ u, (d, u) ∈ made → (made.foldl assignOrphan (db, dm)).1.owner d = some u := by
    intro u hu
    have hd := owner_of_mem_made horphaned hmade (List.mem_map_of_mem hu)
    exact foldl_assignOrphan_owner (db, dm) (nodup_made horphaned hmade) hu (by simp [hd])
  constructor
  · intro h
    exact ⟨List.mem_map_of_mem h, howner t h⟩
  · intro h
    obtain ⟨⟨e, u⟩, hp, he⟩ := List.mem_map.mp h.1
    dsimp only at he
    rw [he] at hp
    have htu : u = t := Option.some_injective _ ((howner u hp).symm.trans h.2)
    exact htu ▸ hp

/-- Whatever part of the plan was carried out. -/
theorem redistributed_foldl (hpos : 0 < nodes.length) (hheirs : ∀ p ∈ nodes, p ∈ heirs)
    (horphaned : Lists orphaned (db.getDevicesByOwner failed))
    (hmade : made.Sublist (redistributionPlan nodes orphaned)) :
    Redistributed failed heirs (made.map Prod.fst) (db, dm)
      (made.foldl assignOrphan (db, dm)) := by
  have hiff : ∀ d t, (d, t) ∈ made ↔
      d ∈ made.map Prod.fst ∧ (made.foldl assignOrphan (db, dm)).1.owner d = some t :=
    fun d t => mem_made_iff horphaned hmade
  refine ⟨fun d hd => ?_, fun d _ hfree => ?_, fun d hd => ?_⟩
  · by_cases hin : d ∈ made.map Prod.fst
    · obtain ⟨⟨e, t⟩, hp, he⟩ := List.mem_map.mp hin
      dsimp only at he
      rw [he] at hp
      obtain ⟨p, hmem, hpt⟩ := List.mem_map.mp (mem_nodes_of_plan hpos (hmade.subset hp)).2
      have hheir : t ∈ heirs.map Prod.fst := List.mem_map.mpr ⟨p, hheirs p hmem, hpt⟩
      have howner := ((hiff d t).mp hp).2
      refine Or.inr ⟨hin, t, ⟨hheir, howner⟩, ?_⟩
      intro u hu
      exact Option.some_injective _ (hu.2.symm.trans howner)
    · refine Or.inl ⟨hin, ?_⟩
      rw [foldl_assignOrphan_owner_of_notMem _ hin]
      exact hd
  · rw [mem_foldl_assignOrphan, or_iff_left hfree]
    exact hiff d dm.localNodeId
  · have hout : d ∉ made.map Prod.fst :=
      fun hin => hd (owner_of_mem_made horphaned hmade hin)
    refine ⟨foldl_assignOrphan_owner_of_notMem _ hout, ?_⟩
    rw [mem_foldl_assignOrphan]
    exact or_iff_right fun hin => hout (List.mem_map_of_mem hin)

/-- What a node inherits are the turns it has in the plan. -/
theorem card_inherited (horphaned : Lists orphaned (db.getDevicesByOwner failed)) (n : Uuid) :
    (inherited failed n db
      ((redistributionPlan nodes orphaned).foldl assignOrphan (db, dm)).1).card =
      (redistributionPlan nodes orphaned).countP (fun p => p.2 = n) := by
  have hsub := List.Sublist.refl (redistributionPlan nodes orphaned)
  have hnodup : (((redistributionPlan nodes orphaned).filter fun p => p.2 = n).map
      Prod.fst).Nodup := (List.filter_sublist.map Prod.fst).nodup (nodup_made horphaned hsub)
  rw [List.countP_eq_length_filter, ← List.length_map Prod.fst,
    ← List.toFinset_card_of_nodup hnodup]
  congr 1
  ext d
  have hiff := @mem_made_iff failed db dm nodes orphaned _ horphaned hsub d n
  rw [map_fst_redistributionPlan, horphaned.mem_iff] at hiff
  rw [inherited, Finset.mem_inter, @InnerDB.mem_getDevicesByOwner _ n, ← hiff]
  simp

/-- The whole plan, over nodes sorted by load. -/
theorem sharedFairly_plan (hpos : 0 < nodes.length) (hnodup : (nodes.map Prod.fst).Nodup)
    (hsorted : nodes.Pairwise (fun a b => a.2 ≤ b.2)) (hheirs : ∀ p, p ∈ nodes ↔ p ∈ heirs)
    (hfailed : failed ≠ dm.localNodeId → failed ∉ heirs.map Prod.fst)
    (horphaned : Lists orphaned (db.getDevicesByOwner failed)) :
    SharedFairly failed heirs (db, dm)
      ((redistributionPlan nodes orphaned).foldl assignOrphan (db, dm)) := by
  have hresult : Redistributed failed heirs ((redistributionPlan nodes orphaned).map Prod.fst)
      (db, dm) ((redistributionPlan nodes orphaned).foldl assignOrphan (db, dm)) :=
    redistributed_foldl hpos (fun p => (hheirs p).mp) horphaned (List.Sublist.refl _)
  have hall : ∀ d, db.owner d = some failed → ∃ t ∈ heirs.map Prod.fst,
      ((redistributionPlan nodes orphaned).foldl assignOrphan (db, dm)).1.owner d = some t := by
    intro d hd
    have hin : d ∈ (redistributionPlan nodes orphaned).map Prod.fst := by
      rw [map_fst_redistributionPlan, horphaned.mem_iff]
      exact InnerDB.mem_getDevicesByOwner.mpr hd
    cases hresult.kept_or_assigned d hd with
    | inl hkept => exact absurd hin hkept.1
    | inr hassigned =>
      obtain ⟨-, t, ht, -⟩ := hassigned
      exact ⟨t, ht⟩
  refine ⟨hall, fun hne => ?_, fun a ha b hb => ?_, fun a ha b hb hlt => ?_⟩
  · refine Finset.eq_empty_of_forall_notMem fun d hd => ?_
    rw [InnerDB.mem_getDevicesByOwner] at hd
    by_cases hbefore : db.owner d = some failed
    · obtain ⟨t, ht, howner⟩ := hall d hbefore
      rw [hd, Option.some_inj] at howner
      exact hfailed hne (howner ▸ ht)
    · exact hbefore ((hresult.others d hbefore).1.symm.trans hd)
  · obtain ⟨i, hi, rfl⟩ := List.getElem_of_mem ((hheirs a).mpr ha)
    obtain ⟨j, hj, rfl⟩ := List.getElem_of_mem ((hheirs b).mpr hb)
    rw [card_inherited horphaned, card_inherited horphaned, countP_plan hnodup hi,
      countP_plan hnodup hj]
    exact balanced_turns _ _ i hi j hj
  · obtain ⟨i, hi, rfl⟩ := List.getElem_of_mem ((hheirs a).mpr ha)
    obtain ⟨j, hj, rfl⟩ := List.getElem_of_mem ((hheirs b).mpr hb)
    rw [card_inherited horphaned, card_inherited horphaned, countP_plan hnodup hi,
      countP_plan hnodup hj] at hlt
    -- whoever has more turns comes first
    by_cases hij : i < j
    · exact List.pairwise_iff_getElem.mp hsorted i j hi hj hij
    · exact absurd (turns_le_of_le (Nat.le_of_not_lt hij) hi) (Nat.not_le_of_lt hlt)

end Result

/-- The devices of a failed node are shared out among the other active nodes and the local
one: exactly, up to the update that fails if one does, and fairly if none does. -/
theorem redistribution_exact_and_fair (fails : DbCall → Bool) (db : InnerDB) (dm : DeviceManager)
    (failed : Uuid) (others : List (Uuid × Nat)) (orphaned : List Uuid)
    (hnodup : (others.map Prod.fst).Nodup) (hfailed : failed ∉ others.map Prod.fst)
    (hlocal : dm.localNodeId ∉ others.map Prod.fst)
    (horphaned : Lists orphaned (db.getDevicesByOwner failed)) :
    let heirs := others ++ [(dm.localNodeId, dm.ownedDevices.card)]
    let after := (redistributeOrphans fails db dm others orphaned).2
    Redistributed failed heirs (reached fails orphaned) (db, dm) after ∧
      ((∀ d ∈ orphaned, fails (.setDeviceOwner d) = false) →
        (redistributeOrphans fails db dm others orphaned).1 = true ∧
          SharedFairly failed heirs (db, dm) after) := by
  intro heirs after
  have hpos : 0 < (allNodes dm.localNodeId dm.ownedDevices.card others).length :=
    allNodes_length_pos _ _ _
  have hheirs : ∀ p, p ∈ allNodes dm.localNodeId dm.ownedDevices.card others ↔ p ∈ heirs :=
    fun p => allNodes_perm.mem_iff
  have hafter : after = (updatesMade fails (redistributionPlan
      (allNodes dm.localNodeId dm.ownedDevices.card others) orphaned)).foldl assignOrphan
        (db, dm) :=
    redistributeOrphans_snd _ _ _ _ _
  rw [hafter]
  refine ⟨?_, fun hok => ⟨?_, ?_⟩⟩
  · rw [← map_fst_updatesMade fails (allNodes dm.localNodeId dm.ownedDevices.card others)]
    exact redistributed_foldl hpos (fun p => (hheirs p).mp) horphaned updatesMade_sublist
  · rw [redistributeOrphans]
    split
    · rfl
    · rw [assignOrphans_eq]
      rw [map_fst_redistributionPlan]
      exact hok
  · rw [updatesMade_eq_self (by rw [map_fst_redistributionPlan]; exact hok)]
    refine sharedFairly_plan hpos (nodup_allNodes hnodup hlocal) allNodes_sorted hheirs ?_ horphaned
    intro hne hmem
    rw [List.map_append, List.mem_append] at hmem
    cases hmem with
    | inl hother => exact hfailed hother
    | inr hself => exact hne (List.mem_singleton.mp hself)

/- Node 3 leaves three devices to node 2, which has five, and node 1, which has none. -/
def threeOrphans : InnerDB :=
  ((InnerDB.new.addDeviceToBucket 9 0 3).addDeviceToBucket 10 1 3).addDeviceToBucket 11 2 3

def heirOne : DeviceManager := ⟨1, ∅, ⟨4, .empty, some ∅, 1, false⟩⟩

theorem threeOrphans_lists : Lists [9, 10, 11] (threeOrphans.getDevicesByOwner 3) :=
  ⟨by decide, by decide +kernel⟩

/-- All three find an owner, or the first alone if the update of the second fails. -/
theorem redistribution_exact_and_fair_three :
    (redistributeOrphans (fun _ => false) threeOrphans heirOne [(2, 5)]
      [9, 10, 11]).2.1.getDevicesByOwner 3 = ∅ ∧
    9 ∈ (redistributeOrphans (fun c => c = .setDeviceOwner 10) threeOrphans heirOne [(2, 5)]
      [9, 10, 11]).2.2.ownedDevices := by
  have hshared := (redistribution_exact_and_fair (fun _ => false) threeOrphans heirOne 3 [(2, 5)]
    [9, 10, 11] (by decide) (by decide) (by decide) threeOrphans_lists).2 (by simp)
  have hexact := (redistribution_exact_and_fair (fun c => c = .setDeviceOwner 10) threeOrphans
    heirOne 3 [(2, 5)] [9, 10, 11] (by decide) (by decide) (by decide) threeOrphans_lists).1
  refine ⟨hshared.2.nothing_left (by decide), ?_⟩
  exact (hexact.mem_owned_iff 9 (by decide +kernel) (by decide)).mpr (by decide +kernel)

end HeadEnd.Cluster
