import HeadEnd.Lib.Transition
import Mathlib.Data.List.Nodup
import Mathlib.Logic.Function.Basic
import Mathlib.Logic.Relation
import Mathlib.Order.WellFounded

/-! Tasks that share reader-writer locks with a fair queue: a task that cannot enter
waits in line, and nobody passes a writer that waits. -/
namespace HeadEnd.RwLock
open Transition

inductive Mode where
  | read | write
  deriving DecidableEq, Repr

/-- Two tasks can hold a lock at once only if both read. -/
def Mode.Compatible (m n : Mode) : Prop := m = .read ∧ n = .read

inductive LockAction (κ : Type) where
  | acquire (lock : κ) (mode : Mode)
  | release (lock : κ)
  deriving DecidableEq, Repr

section Worker
variable {κ : Type} [DecidableEq κ]

/-- What is held of a lock after an action. -/
def heldBy (k : κ) (held : Option Mode) : LockAction κ → Option Mode
  | .acquire lock mode => if lock = k then some mode else held
  | .release lock => if lock = k then none else held

def heldAfter (k : κ) (actions : List (LockAction κ)) : Option Mode := actions.foldl (heldBy k) none

/-- A task: the actions of its program, and how many of them it has done. -/
structure Worker (κ : Type) where
  program : List (LockAction κ)
  pc : Nat
  deriving DecidableEq

namespace Worker

def next (t : Worker κ) : Option (LockAction κ) := t.program[t.pc]?
def held (t : Worker κ) (k : κ) : Option Mode := heldAfter k (t.program.take t.pc)
def advance (t : Worker κ) : Worker κ := { t with pc := t.pc + 1 }

theorem held_advance {t : Worker κ} {a : LockAction κ} (h : t.next = some a) (k : κ) :
    t.advance.held k = heldBy k (t.held k) a := by
  have ha : t.program[t.pc]? = some a := h
  simp only [held, heldAfter, advance, List.take_add_one, ha, Option.toList_some, List.foldl_append,
    List.foldl_cons, List.foldl_nil]

/-- A program gives back what it takes. -/
theorem next_isSome_of_held {t : Worker κ} {k : κ} (hbal : heldAfter k t.program = none)
    (h : t.held k ≠ none) : ∃ a, t.next = some a := by
  by_contra hnone
  have hlen : t.program.length ≤ t.pc := by
    rw [← List.getElem?_eq_none_iff, Option.eq_none_iff_forall_ne_some]
    exact fun a ha => hnone ⟨a, ha⟩
  rw [held, List.take_of_length_le hlen] at h
  exact h hbal

end Worker

end Worker

structure State (ι κ : Type) where
  task : ι → Worker κ
  queue : κ → List (ι × Mode)

inductive Event (ι κ : Type) where
  | start (i : ι) (program : List (LockAction κ))
  | ask (i : ι)
  | enter (i : ι)
  | leave (i : ι)

namespace State
variable {ι κ : Type} {programs : ι → List (List (LockAction κ))}
  {s t : State ι κ} {i j : ι} {k l : κ} {m : Mode} {e : Event ι κ}

def idle : State ι κ := ⟨fun _ => ⟨[], 0⟩, fun _ => []⟩

def Waits (s : State ι κ) (i : ι) : Prop := ∃ k m, (i, m) ∈ s.queue k

theorem mem_queue_of_eq {ahead behind : List (ι × Mode)}
    (h : s.queue k = ahead ++ (i, m) :: behind) : (i, m) ∈ s.queue k := by
  rw [h]
  exact List.mem_append_right _ List.mem_cons_self

theorem mem_queue_of_head {rest : List (ι × Mode)} (h : s.queue k = (i, m) :: rest) :
    (i, m) ∈ s.queue k := by
  rw [h]
  exact List.mem_cons_self

variable [DecidableEq κ]

/-- `i` waits for `j`: `j` is ahead of it in a queue, or holds the lock in a way that it
cannot share. -/
def WaitsFor (s : State ι κ) (i j : ι) : Prop :=
  ∃ k m ahead behind, s.queue k = ahead ++ (i, m) :: behind ∧
    ((∃ n, (j, n) ∈ ahead) ∨ ∃ n, (s.task j).held k = some n ∧ ¬ m.Compatible n)

theorem WaitsFor.waits (h : s.WaitsFor i j) : s.Waits i := by
  obtain ⟨k, m, ahead, behind, hqueue, -⟩ := h
  exact ⟨k, m, mem_queue_of_eq hqueue⟩

/-- What the queues and the tasks say about each other. -/
structure Consistent (programs : ι → List (List (LockAction κ))) (s : State ι κ) : Prop where
  program : ∀ i, (s.task i).program = [] ∨ (s.task i).program ∈ programs i
  next : ∀ i k m, (i, m) ∈ s.queue k → (s.task i).next = some (.acquire k m)
  nodup : ∀ k, ((s.queue k).map Prod.fst).Nodup
  exclusive : ∀ i j k n, (s.task i).held k = some .write → (s.task j).held k = some n → i = j

theorem consistent_idle : Consistent programs (idle : State ι κ) where
  program := fun _ => .inl rfl
  next := fun _ _ _ h => absurd h List.not_mem_nil
  nodup := fun _ => List.nodup_nil
  exclusive := by
    intro i j k n h
    cases h

/-- A task is in one queue at most. -/
theorem Consistent.lock_eq (h : Consistent programs s) {m n : Mode} (hk : (i, m) ∈ s.queue k)
    (hl : (i, n) ∈ s.queue l) : k = l ∧ m = n := by
  have heq := (h.next i k m hk).symm.trans (h.next i l n hl)
  simpa using heq

/-- Once the head has left the queue, it is in none. -/
theorem Consistent.mem_of_mem_rest (h : Consistent programs s) {rest : List (ι × Mode)} {n : Mode}
    (hqueue : s.queue k = (i, m) :: rest) (hj : (j, n) ∈ Function.update s.queue k rest l) :
    j ≠ i ∧ (j, n) ∈ s.queue l := by
  by_cases hl : l = k
  · subst hl
    have hnodup := h.nodup l
    rw [hqueue, List.map_cons, List.nodup_cons] at hnodup
    rw [Function.update_self] at hj
    refine ⟨fun heq => hnodup.1 (List.mem_map.mpr ⟨(j, n), hj, heq⟩), ?_⟩
    rw [hqueue]
    exact List.mem_cons_of_mem _ hj
  · rw [Function.update_of_ne hl] at hj
    refine ⟨fun heq => hl ?_, hj⟩
    exact (h.lock_eq (mem_queue_of_head hqueue) (heq ▸ hj)).1.symm

theorem Consistent.not_waits (h : Consistent programs s)
    (hnext : ∀ k m, (s.task i).next ≠ some (.acquire k m)) : ¬ s.Waits i := by
  intro hwaits
  obtain ⟨k, m, hmem⟩ := hwaits
  exact hnext k m (h.next i k m hmem)

theorem Consistent.ask (h : Consistent programs s) (hnext : (s.task i).next = some (.acquire k m))
    (hwaits : ¬ s.Waits i) :
    Consistent programs { s with queue := Function.update s.queue k (s.queue k ++ [(i, m)]) } where
  program := h.program
  next := by
    intro j l n hmem
    dsimp only at hmem ⊢
    by_cases hl : l = k
    · subst hl
      rw [Function.update_self, List.mem_append, List.mem_singleton] at hmem
      cases hmem with
      | inl hold => exact h.next j l n hold
      | inr hnew =>
        cases hnew
        exact hnext
    · rw [Function.update_of_ne hl] at hmem
      exact h.next j l n hmem
  nodup := by
    intro l
    dsimp only
    by_cases hl : l = k
    · subst hl
      rw [Function.update_self, List.map_append, List.nodup_append]
      refine ⟨h.nodup l, List.nodup_singleton _, fun a ha b hb => ?_⟩
      obtain ⟨⟨a, n⟩, hmem, rfl⟩ := List.mem_map.mp ha
      rw [List.map_singleton, List.mem_singleton] at hb
      subst hb
      exact fun heq => hwaits ⟨l, n, heq ▸ hmem⟩
    · rw [Function.update_of_ne hl]
      exact h.nodup l
  exclusive := h.exclusive

/-- `i` waits for nobody who, through others, waits for it in turn. -/
def Freed (s : State ι κ) (i : ι) : Prop := Acc (fun a b => s.WaitsFor b a) i

theorem freed_of_not_waits (h : ¬ s.Waits i) : s.Freed i :=
  ⟨i, fun _ hj => absurd hj.waits h⟩

/-- Where a task stands in its queue is settled. -/
theorem Consistent.ahead_eq (h : Consistent programs s)
    {ahead behind ahead' behind' : List (ι × Mode)}
    (hqueue : s.queue k = ahead ++ (i, m) :: behind)
    (hqueue' : s.queue k = ahead' ++ (i, m) :: behind') : ahead = ahead' := by
  have hnodup := (h.nodup k).of_map
  rw [hqueue, List.nodup_middle, List.nodup_cons, List.mem_append, not_or] at hnodup
  have heq := hqueue.symm.trans hqueue'
  rw [List.append_cons_inj_of_notMem hnodup.1.1 hnodup.1.2] at heq
  exact heq.1

/-- A task is freed if those are that hold the lock and stand in the way of it or of
somebody ahead of it. -/
theorem Consistent.freed_of_ahead (h : Consistent programs s) {ahead behind : List (ι × Mode)}
    (hqueue : s.queue k = ahead ++ (i, m) :: behind)
    (hholders : ∀ j n, (s.task j).held k = some n →
      (∃ e ∈ ahead ++ [(i, m)], ¬ e.2.Compatible n) → s.Freed j) : s.Freed i := by
  -- by the number of tasks ahead
  induction hlen : ahead.length using Nat.strong_induction_on generalizing ahead behind i m with
  | _ len ih =>
    refine ⟨i, fun j hj => ?_⟩
    obtain ⟨k', m', ahead', behind', hqueue', hblock⟩ := hj
    obtain ⟨rfl, rfl⟩ := h.lock_eq (mem_queue_of_eq hqueue) (mem_queue_of_eq hqueue')
    obtain rfl := h.ahead_eq hqueue hqueue'
    cases hblock with
    | inl hahead =>
      obtain ⟨n, hn⟩ := hahead
      obtain ⟨front, back, rfl⟩ := List.append_of_mem hn
      have hfront : s.queue k = front ++ (j, n) :: (back ++ (i, m) :: behind) := by
        rw [hqueue, List.append_assoc, List.cons_append]
      refine ih front.length ?_ hfront (fun a n ha hstand => hholders a n ha ?_) rfl
      · rw [← hlen, List.length_append, List.length_cons]
        omega
      · obtain ⟨e, he, hne⟩ := hstand
        refine ⟨e, List.mem_append_left _ ?_, hne⟩
        rw [List.append_cons, List.mem_append]
        exact .inl he
    | inr hholder =>
      obtain ⟨n, hheld, hne⟩ := hholder
      exact hholders j n hheld ⟨(i, m), List.mem_append_right _ List.mem_cons_self, hne⟩

theorem Consistent.freed_of_holders (h : Consistent programs s) (hmem : (i, m) ∈ s.queue k)
    (hholders : ∀ j n, (s.task j).held k = some n → s.Freed j) : s.Freed i := by
  obtain ⟨ahead, behind, hqueue⟩ := List.append_of_mem hmem
  exact h.freed_of_ahead hqueue fun j n hheld _ => hholders j n hheld

/-- If every task is freed nobody waits for itself. -/
theorem not_cycle (h : ∀ i, s.Freed i) (i : ι) : ¬ Relation.TransGen s.WaitsFor i i := by
  have hwf : WellFounded (Function.swap s.WaitsFor) := ⟨h⟩
  intro hcycle
  exact hwf.transGen.irrefl.irrefl i (Relation.transGen_swap.mpr hcycle)

section Step
variable [DecidableEq ι]

/-- A task that has nothing left to do takes up a program; one that is to acquire a lock
joins the queue; the head of a queue enters if it can share the lock with all who hold
it; and a lock is released at once. -/
inductive Step (programs : ι → List (List (LockAction κ))) :
    State ι κ → Event ι κ → State ι κ → Prop
  | start {s : State ι κ} {i : ι} {program : List (LockAction κ)} : (s.task i).next = none →
      program ∈ programs i →
      Step programs s (.start i program) { s with task := Function.update s.task i ⟨program, 0⟩ }
  | ask {s : State ι κ} {i : ι} {k : κ} {m : Mode} : (s.task i).next = some (.acquire k m) →
      ¬ s.Waits i →
      Step programs s (.ask i)
        { s with queue := Function.update s.queue k (s.queue k ++ [(i, m)]) }
  | enter {s : State ι κ} {i : ι} {k : κ} {m : Mode} {rest : List (ι × Mode)} :
      s.queue k = (i, m) :: rest →
      (∀ j n, (s.task j).held k = some n → m.Compatible n) →
      Step programs s (.enter i)
        ⟨Function.update s.task i (s.task i).advance, Function.update s.queue k rest⟩
  | leave {s : State ι κ} {i : ι} {k : κ} : (s.task i).next = some (.release k) →
      Step programs s (.leave i)
        { s with task := Function.update s.task i (s.task i).advance }

/-- Some task can do more than take up a program. -/
def Proceeds (programs : ι → List (List (LockAction κ))) (s : State ι κ) : Prop :=
  ∃ e t, Step programs s e t ∧ ∀ i program, e ≠ .start i program

/-- A task that does not wait can do anything that gives it no more than it had. -/
theorem Consistent.update_task (h : Consistent programs s) {task : Worker κ} (hwaits : ¬ s.Waits i)
    (hprogram : task.program = [] ∨ task.program ∈ programs i)
    (hheld : ∀ k n, task.held k = some n → (s.task i).held k = some n) :
    Consistent programs { s with task := Function.update s.task i task } where
  program := by
    intro j
    by_cases hj : j = i
    · subst hj
      simpa using hprogram
    · simpa [hj] using h.program j
  next := by
    intro j k m hmem
    have hj : j ≠ i := fun heq => hwaits ⟨k, m, heq ▸ hmem⟩
    simpa [hj] using h.next j k m hmem
  nodup := h.nodup
  exclusive := by
    have hold : ∀ j k n, (Function.update s.task i task j).held k = some n →
        (s.task j).held k = some n := by
      intro j k n hj
      by_cases hji : j = i
      · subst hji
        rw [Function.update_self] at hj
        exact hheld k n hj
      · rwa [Function.update_of_ne hji] at hj
    exact fun a b k n ha hb => h.exclusive a b k n (hold a k _ ha) (hold b k n hb)

/-- What is held afterwards was held before, apart from the lock just taken. -/
theorem held_of_held_enter {n : Mode} (hnext : (s.task i).next = some (.acquire k m))
    (hj : (Function.update s.task i (s.task i).advance j).held l = some n) :
    (s.task j).held l = some n ∨ (j = i ∧ l = k ∧ n = m) := by
  by_cases hji : j = i
  · subst hji
    rw [Function.update_self, Worker.held_advance hnext, heldBy] at hj
    by_cases hl : k = l
    · rw [if_pos hl] at hj
      exact .inr ⟨rfl, hl.symm, (Option.some.inj hj).symm⟩
    · rw [if_neg hl] at hj
      exact .inl hj
  · rw [Function.update_of_ne hji] at hj
    exact .inl hj

theorem Consistent.enter (h : Consistent programs s) {rest : List (ι × Mode)}
    (hqueue : s.queue k = (i, m) :: rest)
    (hshared : ∀ j n, (s.task j).held k = some n → m.Compatible n) :
    Consistent programs
      ⟨Function.update s.task i (s.task i).advance, Function.update s.queue k rest⟩ where
  program := by
    intro j
    by_cases hj : j = i
    · subst hj
      simpa [Worker.advance] using h.program j
    · simpa [hj] using h.program j
  next := by
    intro j l n hj
    obtain ⟨hne, hold⟩ := h.mem_of_mem_rest hqueue hj
    simpa [hne] using h.next j l n hold
  nodup := by
    intro l
    dsimp only
    by_cases hl : l = k
    · subst hl
      have hnodup := h.nodup l
      rw [hqueue, List.map_cons, List.nodup_cons] at hnodup
      rw [Function.update_self]
      exact hnodup.2
    · rw [Function.update_of_ne hl]
      exact h.nodup l
  exclusive := by
    have hnext := h.next i k m (mem_queue_of_head hqueue)
    intro a b l n ha hb
    cases held_of_held_enter hnext ha with
    | inl hwrite =>
      cases held_of_held_enter hnext hb with
      | inl hold => exact h.exclusive a b l n hwrite hold
      | inr hnew =>
        obtain ⟨-, rfl, -⟩ := hnew
        have hread := (hshared a .write hwrite).2
        cases hread
    | inr hwrite =>
      obtain ⟨rfl, rfl, rfl⟩ := hwrite
      cases held_of_held_enter hnext hb with
      | inl hold =>
        have hread := (hshared b n hold).1
        cases hread
      | inr hnew => exact hnew.1.symm

theorem Consistent.step (h : Consistent programs s) (hstep : Step programs s e t) :
    Consistent programs t := by
  cases hstep with
  | start hnext hprogram =>
    refine h.update_task (h.not_waits (by simp [hnext])) (.inr hprogram) (fun k n hk => ?_)
    cases hk
  | ask hnext hwaits => exact h.ask hnext hwaits
  | enter hqueue hshared => exact h.enter hqueue hshared
  | @leave i k hnext =>
    refine h.update_task (h.not_waits (by simp [hnext])) (h.program i) (fun l n hl => ?_)
    rw [Worker.held_advance hnext, heldBy] at hl
    by_cases hkl : k = l
    · rw [if_pos hkl] at hl
      cases hl
    · rwa [if_neg hkl] at hl

/-- A freed task that waits can enter, or somebody else can proceed. -/
theorem Consistent.proceeds_of_freed (h : Consistent programs s)
    (hbal : ∀ i, ∀ program ∈ programs i, ∀ k, heldAfter k program = none) (hfreed : s.Freed i)
    (hwaits : s.Waits i) : s.Proceeds programs := by
  induction hfreed with
  | intro i _ ih =>
    obtain ⟨k, m, hmem⟩ := hwaits
    obtain ⟨ahead, behind, hqueue⟩ := List.append_of_mem hmem
    cases ahead with
    | cons e rest =>
      -- whoever is first in line waits as well
      have hfirst : (e.1, e.2) ∈ s.queue k := by
        rw [hqueue]
        exact List.mem_cons_self
      exact ih e.1 ⟨k, m, e :: rest, behind, hqueue, .inl ⟨e.2, List.mem_cons_self⟩⟩
        ⟨k, e.2, hfirst⟩
    | nil =>
      by_cases hshared : ∀ j n, (s.task j).held k = some n → m.Compatible n
      · exact ⟨_, _, .enter hqueue hshared, by simp⟩
      · push Not at hshared
        obtain ⟨j, n, hheld, hne⟩ := hshared
        by_cases hj : s.Waits j
        · exact ih j ⟨k, m, [], behind, hqueue, .inr ⟨n, hheld, hne⟩⟩ hj
        · -- a holder that does not wait has something left to do
          have hprogram : heldAfter k (s.task j).program = none := by
            cases h.program j with
            | inl hnil =>
              rw [hnil]
              rfl
            | inr hmem => exact hbal j _ hmem k
          obtain ⟨a, ha⟩ := Worker.next_isSome_of_held hprogram (by simp [hheld])
          cases a with
          | acquire l n => exact ⟨_, _, .ask ha hj, by simp⟩
          | release l => exact ⟨_, _, .leave ha, by simp⟩

/-- With nobody in a queue, a task does its next action if nobody holds what it takes. -/
theorem exists_run_next {a : LockAction κ} (hqueue : ∀ k, s.queue k = [])
    (hnext : (s.task i).next = some a)
    (hfree : ∀ k m, a = .acquire k m → ∀ j, (s.task j).held k = none) :
    ∃ es, Run (Step programs) s es
      { s with task := Function.update s.task i (s.task i).advance } := by
  cases a with
  | release k => exact ⟨_, .single (.leave hnext)⟩
  | acquire k m =>
    have hwaits : ¬ s.Waits i := by
      intro hwaits
      obtain ⟨l, m, hmem⟩ := hwaits
      simp [hqueue] at hmem
    have hask : Step programs s (.ask i)
        { s with queue := Function.update s.queue k [(i, m)] } := by
      have hone : s.queue k ++ [(i, m)] = [(i, m)] := by rw [hqueue, List.nil_append]
      rw [← hone]
      exact .ask hnext hwaits
    have henter : Step programs { s with queue := Function.update s.queue k [(i, m)] } (.enter i)
        { s with task := Function.update s.task i (s.task i).advance } := by
      have hempty : Function.update (Function.update s.queue k [(i, m)]) k [] = s.queue := by
        rw [Function.update_idem, ← hqueue k, Function.update_eq_self]
      have hstate : ({ s with task := Function.update s.task i (s.task i).advance } : State ι κ) =
          ⟨Function.update s.task i (s.task i).advance,
            Function.update (Function.update s.queue k [(i, m)]) k []⟩ := by rw [hempty]
      rw [hstate]
      refine .enter (Function.update_self _ _ _) (fun j n hj => ?_)
      rw [hfree k m rfl j] at hj
      cases hj
    exact ⟨_, .cons hask (.single henter)⟩

/-- With the locks to itself, a task that takes up a program and never takes a lock twice
gets to any point of it. -/
theorem exists_run_alone {program : List (LockAction κ)} {n : Nat} (hqueue : ∀ k, s.queue k = [])
    (hothers : ∀ j, j ≠ i → ∀ k, (s.task j).held k = none) (hidle : (s.task i).next = none)
    (hprogram : program ∈ programs i)
    (honce : ∀ n k m, program[n]? = some (.acquire k m) → heldAfter k (program.take n) = none)
    (hn : n ≤ program.length) :
    ∃ es, Run (Step programs) s es
      { s with task := Function.update s.task i ⟨program, n⟩ } := by
  induction n with
  | zero => exact ⟨_, .single (.start hidle hprogram)⟩
  | succ n ih =>
    obtain ⟨es, hrun⟩ := ih (by omega)
    have hself : Function.update s.task i ⟨program, n⟩ i = ⟨program, n⟩ :=
      Function.update_self _ _ _
    have hlt : n < program.length := by omega
    have hnext : (Function.update s.task i ⟨program, n⟩ i).next = some program[n] := by
      rw [hself]
      exact List.getElem?_eq_getElem hlt
    have hfree : ∀ k m, program[n] = .acquire k m → ∀ j,
        (Function.update s.task i ⟨program, n⟩ j).held k = none := by
      intro k m ha j
      by_cases hj : j = i
      · rw [hj, hself]
        exact honce n k m (by rw [List.getElem?_eq_getElem hlt, ha])
      · rw [Function.update_of_ne hj]
        exact hothers j hj k
    obtain ⟨fs, hlast⟩ := exists_run_next (s := ⟨Function.update s.task i ⟨program, n⟩, s.queue⟩)
      hqueue hnext hfree
    dsimp only at hlast
    rw [hself, Function.update_idem] at hlast
    exact ⟨_, hrun.append hlast⟩

end Step

end State

end HeadEnd.RwLock
