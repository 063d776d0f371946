import Mathlib.Data.Finmap
import Mathlib.Logic.Function.Basic

/-! A registry with one entry for each key. A task enters itself some time after it has
started, and at its end it clears the entry of its key, whosever that is. -/
namespace HeadEnd.Registry
variable {ι κ : Type*}

/-- A task has not entered itself yet, or it has and relies on its entry, or it does not any
more. -/
inductive Stage where
  | started | entered | resting
  deriving DecidableEq

/-- The live tasks, each with its key and its stage, and whose the entries are. -/
structure View (ι κ : Type*) where
  task : ι → Option (κ × Stage)
  entry : κ → Option ι

/-- No two live tasks have the same key. Every entry is that of a live task which entered
itself, and the tasks that rely on their entries have them. -/
structure Sound (v : View ι κ) : Prop where
  sole : ∀ i j k st st', v.task i = some (k, st) → v.task j = some (k, st') → i = j
  owner : ∀ k i, v.entry k = some i → ∃ st, v.task i = some (k, st) ∧ st ≠ .started
  entered : ∀ i k, v.task i = some (k, .entered) → v.entry k = some i

namespace Sound
variable {v : View ι κ} {i : ι} {k : κ} {st : Stage}

theorem other_ne (h : Sound v) (hi : v.task i = some (k, st)) (j : ι) (st' : Stage)
    (hj : j ≠ i) : v.task j ≠ some (k, st') :=
  fun hk => hj (h.sole j i k st' st hk hi)

theorem key_of_entry (h : Sound v) (hi : v.task i = some (k, st)) (l : κ)
    (hl : v.entry l = some i) : l = k := by
  obtain ⟨st', hst', -⟩ := h.owner l i hl
  exact (Prod.mk.inj (Option.some.inj (hst'.symm.trans hi))).1

end Sound

variable [DecidableEq ι] [DecidableEq κ]

/-- What becomes of a task, `r` being its new stage if it lives on, and of the entry of its
key. -/
def View.put (v : View ι κ) (i : ι) (k : κ) (r : Option Stage) (e : Option ι) : View ι κ :=
  ⟨Function.update v.task i (r.map (k, ·)), Function.update v.entry k e⟩

namespace Sound
variable {v : View ι κ} {i : ι} {k : κ} {st : Stage}

/-- The change of a task whose key nobody else has. The entry of the key may name this task,
which must if it relies on it, or nobody. -/
theorem put (h : Sound v) {r : Option Stage} {e : Option ι}
    (hsole : ∀ j st, j ≠ i → v.task j ≠ some (k, st)) (hown : ∀ l, v.entry l = some i → l = k)
    (he : (e = some i ∧ ∃ st, r = some st ∧ st ≠ .started) ∨ (e = none ∧ r ≠ some .entered)) :
    Sound (v.put i k r e) := by
  have hself : (v.put i k r e).task i = r.map (k, ·) := Function.update_self _ _ _
  have hold : ∀ j, j ≠ i → (v.put i k r e).task j = v.task j :=
    fun j hj => Function.update_of_ne hj _ _
  have hentry : (v.put i k r e).entry k = e := Function.update_self _ _ _
  have hrest : ∀ l, l ≠ k → (v.put i k r e).entry l = v.entry l :=
    fun l hl => Function.update_of_ne hl _ _
  have hkey : ∀ l st, (v.put i k r e).task i = some (l, st) → l = k ∧ r = some st := by
    intro l st hst
    rw [hself] at hst
    obtain ⟨st', hst', heq⟩ := Option.map_eq_some_iff.mp hst
    obtain ⟨rfl, rfl⟩ := Prod.mk.inj heq
    exact ⟨rfl, hst'⟩
  refine ⟨fun j j' l st st' hj hj' => ?_, fun l j hj => ?_, fun j l hj => ?_⟩
  · by_cases hji : j = i
    · by_cases hji' : j' = i
      · exact hji.trans hji'.symm
      · obtain ⟨rfl, -⟩ := hkey l st (hji ▸ hj)
        exact absurd ((hold j' hji').symm.trans hj') (hsole j' st' hji')
    · by_cases hji' : j' = i
      · obtain ⟨rfl, -⟩ := hkey l st' (hji' ▸ hj')
        exact absurd ((hold j hji).symm.trans hj) (hsole j st hji)
      · exact h.sole j j' l st st' ((hold j hji).symm.trans hj) ((hold j' hji').symm.trans hj')
  · by_cases hl : l = k
    · subst hl
      cases he with
      | inr hnone => cases hnone.1.symm.trans (hentry.symm.trans hj)
      | inl hsome =>
        obtain ⟨hname, st, rfl, hst⟩ := hsome
        obtain rfl := Option.some.inj (hname.symm.trans (hentry.symm.trans hj))
        exact ⟨st, hself, hst⟩
    · rw [hrest l hl] at hj
      obtain ⟨st, htask, hst⟩ := h.owner l j hj
      have hji : j ≠ i := fun heq => hl (hown l (heq ▸ hj))
      exact ⟨st, (hold j hji).trans htask, hst⟩
  · by_cases hji : j = i
    · subst hji
      obtain ⟨rfl, hentered⟩ := hkey l .entered hj
      cases he with
      | inl hsome => exact hentry.trans hsome.1
      | inr hnone => exact absurd hentered hnone.2
    · rw [hold j hji] at hj
      have hl : l ≠ k := fun heq => hsole j .entered hji (heq ▸ hj)
      exact (hrest l hl).trans (h.entered j l hj)

/-- A new task whose key nobody else has. -/
theorem start (h : Sound v) (hnew : v.task i = none) (hsole : ∀ j st, v.task j ≠ some (k, st)) :
    Sound { v with task := Function.update v.task i (some (k, .started)) } := by
  have hempty : v.entry k = none := by
    rw [Option.eq_none_iff_forall_ne_some]
    intro j hj
    obtain ⟨st, hst, -⟩ := h.owner k j hj
    exact hsole j st hst
  have hown : ∀ l, v.entry l = some i → l = k := by
    intro l hl
    obtain ⟨st, hst, -⟩ := h.owner l i hl
    cases hnew.symm.trans hst
  have hput := h.put (r := some .started) (fun j st _ => hsole j st) hown
    (.inr ⟨hempty, by simp⟩)
  rw [View.put, Function.update_eq_self] at hput
  exact hput

/-- A task enters itself. It need not rely on the entry. -/
theorem enter (h : Sound v) (hi : v.task i = some (k, st)) {st' : Stage} (hst' : st' ≠ .started) :
    Sound (v.put i k (some st') (some i)) :=
  h.put (h.other_ne hi) (h.key_of_entry hi) (.inl ⟨rfl, st', rfl, hst'⟩)

/-- The entry is cleared, at the end of the task or before. -/
theorem clear (h : Sound v) (hi : v.task i = some (k, st)) {r : Option Stage}
    (hr : r ≠ some .entered) : Sound (v.put i k r none) :=
  h.put (h.other_ne hi) (h.key_of_entry hi) (.inr ⟨rfl, hr⟩)

/-- A task does not rely on its entry any more. -/
theorem rest (h : Sound v) (hi : v.task i = some (k, .entered)) :
    Sound { v with task := Function.update v.task i (some (k, .resting)) } := by
  have hput := h.put (r := some .resting) (h.other_ne hi) (h.key_of_entry hi)
    (.inl ⟨h.entered i k hi, .resting, rfl, by simp⟩)
  rw [View.put, Function.update_eq_self] at hput
  exact hput

end Sound

section Tables
variable {α : Type*} {f : α → Option (κ × Stage)} {l : List α} {m : Finmap fun _ : κ => Nat}
  {i : Nat} {k : κ} {c c' : α}

/-- Tasks in a list, and their positions as the entries of a map. -/
def View.ofTables (f : α → Option (κ × Stage)) (l : List α) (m : Finmap fun _ : κ => Nat) :
    View Nat κ :=
  ⟨fun i => l[i]?.bind f, fun k => m.lookup k⟩

namespace View

theorem task_apply (j : Nat) : (ofTables f l m).task j = l[j]?.bind f := rfl

theorem task_of_getElem? (h : l[i]? = some c) : (ofTables f l m).task i = f c := by
  rw [task_apply, h, Option.bind_some]

theorem task_set (h : l[i]? = some c) :
    (ofTables f (l.set i c') m).task = Function.update (ofTables f l m).task i (f c') := by
  have hi : i < l.length := (List.getElem?_eq_some_iff.mp h).1
  funext j
  by_cases hj : j = i
  · rw [hj, Function.update_self]
    exact task_of_getElem? (List.getElem?_set_self hi)
  · rw [Function.update_of_ne hj, task_apply, task_apply, List.getElem?_set_ne (Ne.symm hj)]

theorem task_append :
    (ofTables f (l ++ [c]) m).task = Function.update (ofTables f l m).task l.length (f c) := by
  funext j
  by_cases hj : j = l.length
  · rw [hj, Function.update_self]
    exact task_of_getElem? List.getElem?_concat_length
  · rw [Function.update_of_ne hj, task_apply, task_apply]
    by_cases hlt : j < l.length
    · rw [List.getElem?_append_left hlt]
    · have hlen : (l ++ [c]).length ≤ j := by
        rw [List.length_append, List.length_singleton]
        omega
      rw [List.getElem?_eq_none hlen, List.getElem?_eq_none (Nat.le_of_not_lt hlt)]

theorem entry_insert (l' : List α) :
    (ofTables f l' (m.insert k i)).entry = Function.update (ofTables f l m).entry k (some i) := by
  funext k'
  by_cases hk : k' = k
  · rw [hk, Function.update_self]
    exact Finmap.lookup_insert m
  · rw [Function.update_of_ne hk]
    exact Finmap.lookup_insert_of_ne m hk

theorem entry_erase (l' : List α) :
    (ofTables f l' (m.erase k)).entry = Function.update (ofTables f l m).entry k none := by
  funext k'
  by_cases hk : k' = k
  · rw [hk, Function.update_self]
    exact Finmap.lookup_erase k m
  · rw [Function.update_of_ne hk]
    exact Finmap.lookup_erase_ne hk

end View

namespace Sound
variable {st : Stage}

theorem empty : Sound (View.ofTables f [] ∅) := by
  refine ⟨fun i j k st st' hi _ => ?_, fun k i hi => ?_, fun i k hi => ?_⟩
  · cases hi
  · cases hi
  · cases hi

theorem append (h : Sound (View.ofTables f l m)) (hc : f c = some (k, .started))
    (hsole : ∀ c' ∈ l, ∀ st, f c' ≠ some (k, st)) : Sound (View.ofTables f (l ++ [c]) m) := by
  have hnew : (View.ofTables f l m).task l.length = none := by
    rw [View.task_apply, List.getElem?_eq_none (Nat.le_refl _), Option.bind_none]
  have hstart := h.start hnew fun j st hj => by
    obtain ⟨c', hc', hview⟩ := Option.bind_eq_some_iff.mp hj
    exact hsole c' (List.mem_of_getElem? hc') st hview
  rw [← hc, ← View.task_append] at hstart
  exact hstart

/-- A change of a task that the view does not show. -/
theorem set (h : Sound (View.ofTables f l m)) (hi : l[i]? = some c) (hc : f c' = f c) :
    Sound (View.ofTables f (l.set i c') m) := by
  have htask : (View.ofTables f (l.set i c') m).task = (View.ofTables f l m).task := by
    have hself : f c = (View.ofTables f l m).task i := (View.task_of_getElem? hi).symm
    rw [View.task_set hi, hc, hself, Function.update_eq_self]
  exact ⟨htask ▸ h.sole, htask ▸ h.owner, htask ▸ h.entered⟩

theorem set_rest (h : Sound (View.ofTables f l m)) (hi : l[i]? = some c)
    (hk : f c = some (k, .entered)) (hc : f c' = some (k, .resting)) :
    Sound (View.ofTables f (l.set i c') m) := by
  have hrest := h.rest ((View.task_of_getElem? hi).trans hk)
  rw [← hc, ← View.task_set hi] at hrest
  exact hrest

theorem set_insert {st' : Stage} (h : Sound (View.ofTables f l m)) (hi : l[i]? = some c)
    (hk : f c = some (k, st)) (hc : f c' = some (k, st')) (hst' : st' ≠ .started) :
    Sound (View.ofTables f (l.set i c') (m.insert k i)) := by
  have henter := h.enter ((View.task_of_getElem? hi).trans hk) hst'
  rw [View.put, Option.map_some, ← hc, ← View.task_set hi, ← View.entry_insert (l.set i c')]
    at henter
  exact henter

theorem set_erase {r : Option Stage} (h : Sound (View.ofTables f l m)) (hi : l[i]? = some c)
    (hk : f c = some (k, st)) (hc : f c' = r.map (k, ·)) (hr : r ≠ some .entered) :
    Sound (View.ofTables f (l.set i c') (m.erase k)) := by
  have hclear := h.clear ((View.task_of_getElem? hi).trans hk) hr
  rw [View.put, ← hc, ← View.task_set hi, ← View.entry_erase (l.set i c')] at hclear
  exact hclear

theorem map {g : α → α} (h : Sound (View.ofTables f l m)) (hg : ∀ c, f (g c) = f c) :
    Sound (View.ofTables f (l.map g) m) := by
  have htask : (View.ofTables f (l.map g) m).task = (View.ofTables f l m).task := by
    funext j
    rw [View.task_apply, View.task_apply, List.getElem?_map, Option.bind_map]
    exact congrArg (l[j]?.bind ·) (funext hg)
  exact ⟨htask ▸ h.sole, htask ▸ h.owner, htask ▸ h.entered⟩

/-- The task of an entry, in the list. -/
theorem of_lookup (h : Sound (View.ofTables f l m)) (hk : m.lookup k = some i) :
    ∃ c st, l[i]? = some c ∧ f c = some (k, st) ∧ st ≠ .started := by
  obtain ⟨st, htask, hst⟩ := h.owner k i hk
  obtain ⟨c, hc, hview⟩ := Option.bind_eq_some_iff.mp htask
  exact ⟨c, st, hc, hview, hst⟩

end Sound

end Tables

end HeadEnd.Registry
