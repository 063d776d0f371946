import HeadEnd.DeviceManager
import HeadEnd.Lib.Transition

/-! Survivors share out the devices of a failed node. Each reads the orphans
from the database once and then writes their owners one by one; the database
calls of different survivors interleave freely. -/
namespace HeadEnd.Cluster
open Transition DeviceManager

/-- A node failed; the survivors process that, each with its own view of the
active nodes and their device counts. -/
structure Failure where
  failed : Uuid
  survivors : Finset Uuid
  failed_notMem : failed ∉ survivors
  view : Uuid → List (Uuid × Nat)

/-- Where a survivor is: the orphans not read yet, or the owners still to be
written. -/
inductive Phase where
  | idle
  | writing (rest : List (Uuid × Uuid))

structure FailoverState where
  db : InnerDB
  dm : Uuid → DeviceManager
  phase : Uuid → Phase
  localNodeId_dm : ∀ n, (dm n).localNodeId = n

inductive FailoverEvent where
  | read (n : Uuid) (orphaned : List Uuid)
  | write (n : Uuid)

namespace FailoverState

def enter (s : FailoverState) (n : Uuid) (plan : List (Uuid × Uuid)) : FailoverState :=
  { s with phase := Function.update s.phase n (.writing plan) }

def assign (s : FailoverState) (n : Uuid) (p : Uuid × Uuid) (rest : List (Uuid × Uuid)) :
    FailoverState where
  db := (assignOrphan (s.db, s.dm n) p).1
  dm := Function.update s.dm n (assignOrphan (s.db, s.dm n) p).2
  phase := Function.update s.phase n (.writing rest)
  localNodeId_dm m := by
    by_cases h : m = n
    · rw [h, Function.update_self, assignOrphan_localNodeId]
      exact s.localNodeId_dm n
    · rw [Function.update_of_ne h]
      exact s.localNodeId_dm m

def Holds (s : FailoverState) (n d : Uuid) : Prop := d ∈ (s.dm n).ownedDevices

end FailoverState

namespace Failure

def nodes (f : Failure) (s : FailoverState) (n : Uuid) : List (Uuid × Nat) :=
  allNodes (s.dm n).localNodeId (s.dm n).ownedDevices.card (f.view n)

inductive Step (f : Failure) : FailoverState → FailoverEvent → FailoverState → Prop
  | read {s : FailoverState} {n : Uuid} {orphaned : List Uuid} : n ∈ f.survivors →
      s.phase n = .idle → Lists orphaned (s.db.getDevicesByOwner f.failed) →
      Step f s (.read n orphaned) (s.enter n (redistributionPlan (f.nodes s n) orphaned))
  | write {s : FailoverState} {n : Uuid} {p : Uuid × Uuid} {rest : List (Uuid × Uuid)} :
      n ∈ f.survivors → s.phase n = .writing (p :: rest) →
      Step f s (.write n) (s.assign n p rest)

def orphans (f : Failure) (s : FailoverState) : Finset Uuid := s.db.getDevicesByOwner f.failed

/-- The node that `n`, as it stands in `s`, picks for the orphan it lists at place `i`. -/
def target (f : Failure) (s : FailoverState) (n : Uuid) (i : Nat) : Uuid :=
  targetOf (f.nodes s n) i

/-- The nodes that `n` hands orphans to: the least loaded ones, as many as there
are orphans. -/
def receivers (f : Failure) (s : FailoverState) (n : Uuid) : List Uuid :=
  ((f.nodes s n).take (f.orphans s).card).map Prod.fst

def Finished (f : Failure) (s : FailoverState) : Prop :=
  ∀ n ∈ f.survivors, s.phase n = .writing []

/-- What the survivors believe they own among `ds` is what the database records. -/
def Agree (f : Failure) (ds : Finset Uuid) (s : FailoverState) : Prop :=
  ∀ n ∈ f.survivors, ∀ d ∈ ds, s.Holds n d ↔ s.db.owner d = some n

/-- Nothing to share out; or no survivor held an orphan before, and there is at
most one survivor or none of them receives anything; or everything goes to one
survivor, which is alone or held all of it (and the others none) before. -/
def Compatible (f : Failure) (s : FailoverState) : Prop :=
  f.orphans s = ∅ ∨
    ((∀ n ∈ f.survivors, ∀ d ∈ f.orphans s, ¬ s.Holds n d) ∧
      (f.survivors.card ≤ 1 ∨ ∀ n ∈ f.survivors, ∀ r ∈ f.receivers s n, r ∉ f.survivors)) ∨
    ∃ t ∈ f.survivors, (∀ n ∈ f.survivors, ∀ r ∈ f.receivers s n, r = t) ∧
      (f.survivors = {t} ∨ ∀ n ∈ f.survivors, ∀ d ∈ f.orphans s, s.Holds n d ↔ n = t)

end Failure

/-- The managers of all nodes, each under its own id. -/
structure Managers where
  dm : Uuid → DeviceManager
  localNodeId_dm : ∀ n, (dm n).localNodeId = n

/-- The state when the failure is noticed: nobody has read the database yet. -/
def FailoverState.start (db : InnerDB) (managers : Managers) : FailoverState :=
  ⟨db, managers.dm, fun _ => .idle, managers.localNodeId_dm⟩

section Lemmas

variable {f : Failure} {s t : FailoverState} {m n d : Uuid} {p : Uuid × Uuid}
  {rest : List (Uuid × Uuid)}

namespace FailoverState

@[simp] theorem enter_phase_self : (s.enter n rest).phase n = .writing rest :=
  Function.update_self ..

theorem enter_phase_of_ne (h : m ≠ n) : (s.enter n rest).phase m = s.phase m :=
  Function.update_of_ne h ..

@[simp] theorem assign_phase_self : (s.assign n p rest).phase n = .writing rest :=
  Function.update_self ..

theorem assign_phase_of_ne (h : m ≠ n) : (s.assign n p rest).phase m = s.phase m :=
  Function.update_of_ne h ..

theorem assign_dm_self : (s.assign n p rest).dm n = (assignOrphan (s.db, s.dm n) p).2 :=
  Function.update_self ..

theorem assign_dm_of_ne (h : m ≠ n) : (s.assign n p rest).dm m = s.dm m :=
  Function.update_of_ne h ..

theorem holds_assign : (s.assign n p rest).Holds m d ↔
    (m = n ∧ d = p.1 ∧ p.2 = n) ∨ s.Holds m d := by
  unfold Holds
  by_cases h : m = n
  · subst h
    rw [assign_dm_self, mem_assignOrphan, s.localNodeId_dm m]
    simp
  · simp [assign_dm_of_ne h, h]

theorem owner_assign_isSome :
    ((s.assign n p rest).db.owner d).isSome = (s.db.owner d).isSome :=
  InnerDB.owner_setDeviceOwner_isSome

theorem owner_assign_self (h : (s.db.owner p.1).isSome) :
    (s.assign n p rest).db.owner p.1 = some p.2 := by
  obtain ⟨o, ho⟩ := Option.isSome_iff_exists.mp h
  exact InnerDB.owner_setDeviceOwner_self ho

theorem owner_assign_of_ne (h : d ≠ p.1) : (s.assign n p rest).db.owner d = s.db.owner d :=
  InnerDB.owner_setDeviceOwner_of_ne h

end FailoverState

namespace Failure

theorem mem_receivers {r : Uuid} :
    r ∈ f.receivers s n ↔ ∃ i < (f.orphans s).card, f.target s n i = r := by
  rw [receivers, List.mem_map]
  constructor
  · intro h
    obtain ⟨q, hq, hr⟩ := h
    obtain ⟨i, hi, ht⟩ := exists_targetOf_of_mem_take hq
    exact ⟨i, hi, ht.trans hr⟩
  · intro h
    obtain ⟨i, hi, ht⟩ := h
    obtain ⟨q, hq, hr⟩ := exists_mem_take_of_targetOf (allNodes_length_pos _ _ _) hi
    exact ⟨q, hq, hr.trans ht⟩

/-- What holds throughout a failover that began in `s`, whatever the order of
the calls: a survivor that has not read is untouched, and only devices that were
orphans at the start are on anyone's list, with a receiver of that survivor. -/
structure Tidy (f : Failure) (s t : FailoverState) : Prop where
  dm_of_idle : ∀ n, t.phase n = .idle → t.dm n = s.dm n
  pending : ∀ n rest, t.phase n = .writing rest →
    ∀ p ∈ rest, p.1 ∈ f.orphans s ∧ p.2 ∈ f.receivers s n
  nodup : ∀ n rest, t.phase n = .writing rest → (rest.map Prod.fst).Nodup
  mem_orphans : ∀ d, t.db.owner d = some f.failed → d ∈ f.orphans s
  owner_isSome : ∀ d ∈ f.orphans s, (t.db.owner d).isSome
  holds : ∀ n d, s.Holds n d → t.Holds n d

theorem Tidy.start {db : InnerDB} {managers : Managers} :
    f.Tidy (.start db managers) (.start db managers) where
  dm_of_idle _ _ := rfl
  pending _ _ hw := nomatch hw
  nodup _ _ hw := nomatch hw
  mem_orphans _ ho := InnerDB.mem_getDevicesByOwner.mpr ho
  owner_isSome _ hd := Option.isSome_iff_exists.mpr ⟨_, InnerDB.mem_getDevicesByOwner.mp hd⟩
  holds _ _ hh := hh

/-- The list a survivor reads is no longer than the orphans at the start, so its
places name receivers. -/
theorem Tidy.target_mem_receivers (ht : f.Tidy s t) (hidle : t.phase n = .idle)
    {orphaned : List Uuid} (hl : Lists orphaned (t.db.getDevicesByOwner f.failed)) {i : Nat}
    (hi : orphaned[i]? = some d) : f.target t n i ∈ f.receivers s n := by
  have hsub : t.db.getDevicesByOwner f.failed ⊆ f.orphans s := by
    intro x hx
    exact ht.mem_orphans x (InnerDB.mem_getDevicesByOwner.mp hx)
  have hlt : i < (f.orphans s).card := by
    have hlen := (List.getElem?_eq_some_iff.mp hi).1
    have hcard := Finset.card_le_card hsub
    rw [hl.length_eq] at hlen
    omega
  refine mem_receivers.mpr ⟨i, hlt, ?_⟩
  simp only [target, nodes, ht.dm_of_idle n hidle]

theorem Tidy.enter (ht : f.Tidy s t) (hidle : t.phase n = .idle) {orphaned : List Uuid}
    (hl : Lists orphaned (t.db.getDevicesByOwner f.failed)) :
    f.Tidy s (t.enter n (redistributionPlan (f.nodes t n) orphaned)) where
  dm_of_idle m hm := by
    by_cases h : m = n
    · subst h
      simp at hm
    · rw [FailoverState.enter_phase_of_ne h] at hm
      exact ht.dm_of_idle m hm
  pending m rest hm p hp := by
    by_cases h : m = n
    · subst h
      rw [FailoverState.enter_phase_self] at hm
      cases hm
      obtain ⟨i, hi, htarget⟩ := mem_redistributionPlan.mp hp
      have hd := hl.mem_iff.mp (List.mem_of_getElem? hi)
      refine ⟨ht.mem_orphans _ (InnerDB.mem_getDevicesByOwner.mp hd), ?_⟩
      rw [← htarget]
      exact ht.target_mem_receivers hidle hl hi
    · rw [FailoverState.enter_phase_of_ne h] at hm
      exact ht.pending m rest hm p hp
  nodup m rest hm := by
    by_cases h : m = n
    · subst h
      rw [FailoverState.enter_phase_self] at hm
      cases hm
      rw [map_fst_redistributionPlan]
      exact hl.1
    · rw [FailoverState.enter_phase_of_ne h] at hm
      exact ht.nodup m rest hm
  mem_orphans := ht.mem_orphans
  owner_isSome := ht.owner_isSome
  holds := ht.holds

theorem Tidy.assign (ht : f.Tidy s t) (hw : t.phase n = .writing (p :: rest)) :
    f.Tidy s (t.assign n p rest) where
  dm_of_idle m hm := by
    by_cases h : m = n
    · subst h
      simp at hm
    · rw [FailoverState.assign_phase_of_ne h] at hm
      rw [FailoverState.assign_dm_of_ne h]
      exact ht.dm_of_idle m hm
  pending m rest' hm q hq := by
    by_cases h : m = n
    · subst h
      rw [FailoverState.assign_phase_self] at hm
      cases hm
      exact ht.pending m _ hw q (List.mem_cons_of_mem p hq)
    · rw [FailoverState.assign_phase_of_ne h] at hm
      exact ht.pending m rest' hm q hq
  nodup m rest' hm := by
    by_cases h : m = n
    · subst h
      rw [FailoverState.assign_phase_self] at hm
      cases hm
      exact (List.nodup_cons.mp (ht.nodup m _ hw)).2
    · rw [FailoverState.assign_phase_of_ne h] at hm
      exact ht.nodup m rest' hm
  mem_orphans d ho := by
    by_cases h : d = p.1
    · rw [h]
      exact (ht.pending n _ hw p List.mem_cons_self).1
    · rw [FailoverState.owner_assign_of_ne h] at ho
      exact ht.mem_orphans d ho
  owner_isSome d hd := FailoverState.owner_assign_isSome.trans (ht.owner_isSome d hd)
  holds m d hh := FailoverState.holds_assign.mpr (.inr (ht.holds m d hh))

/-- The invariant rule of a failover: both kinds of step, with what is known of
every state on the way. -/
theorem Tidy.induct (inv : FailoverState → Prop) {es : List FailoverEvent}
    {s₀ : FailoverState}
    (henter : ∀ s n orphaned, f.Tidy s₀ s → inv s → n ∈ f.survivors → s.phase n = .idle →
      Lists orphaned (s.db.getDevicesByOwner f.failed) →
      inv (s.enter n (redistributionPlan (f.nodes s n) orphaned)))
    (hassign : ∀ s n p rest, f.Tidy s₀ s → inv s → n ∈ f.survivors →
      s.phase n = .writing (p :: rest) → inv (s.assign n p rest))
    (hrun : Run f.Step s es t) (htidy : f.Tidy s₀ s) (hinv : inv s) :
    f.Tidy s₀ t ∧ inv t := by
  refine Run.invariant (fun s => f.Tidy s₀ s ∧ inv s) ?_ hrun ⟨htidy, hinv⟩
  intro u e v hu hstep
  cases hstep with
  | read hn hidle hl => exact ⟨hu.1.enter hidle hl, henter _ _ _ hu.1 hu.2 hn hidle hl⟩
  | write hn hw => exact ⟨hu.1.assign hw, hassign _ _ _ _ hu.1 hu.2 hn hw⟩

theorem Tidy.of_run {es : List FailoverEvent} {s₀ : FailoverState} (hrun : Run f.Step s es t)
    (htidy : f.Tidy s₀ s) : f.Tidy s₀ t :=
  (Tidy.induct (fun _ => True) (fun _ _ _ _ _ _ _ _ => trivial)
    (fun _ _ _ _ _ _ _ _ => trivial) hrun htidy trivial).1

end Failure

end Lemmas

end HeadEnd.Cluster
