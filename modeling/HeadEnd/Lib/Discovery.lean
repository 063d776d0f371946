import HeadEnd.Lib.Transition
import Mathlib.Algebra.BigOperators.Group.Finset.Basic
import Mathlib.Algebra.Order.BigOperators.Group.Finset
import Mathlib.Data.Prod.Lex

/-! Nodes that find each other. A newcomer asks a node; that node takes it up and tells it
whom it knows; the newcomer asks those of them that it does not know. Nodes that know each
other greet each other. Messages arrive in any order, and more than once. -/
namespace HeadEnd.Discovery
open Transition
variable {α : Type*}

inductive Msg (α : Type*) where
  | ask (source target : α)
  | tell (source target : α) (names : Finset α)
  | greet (source target : α)
  deriving DecidableEq

namespace Msg

def source : Msg α → α
  | .ask x _ | .tell x _ _ | .greet x _ => x

def target : Msg α → α
  | .ask _ y | .tell _ y _ | .greet _ y => y

end Msg

structure State (α : Type*) where
  known : α → Finset α
  net : Multiset (Msg α)

inductive Event (α : Type*) where
  | start (source : α) (targets : Multiset α)
  | salute (source : α) (targets : Multiset α)
  | deliver (m : Msg α)
  | copy (m : Msg α)
  | lose (m : Msg α)

namespace State
section
variable [DecidableEq α]

/-- The target of a message knows its source from then on. -/
def learn (s : State α) (m : Msg α) : α → Finset α :=
  Function.update s.known m.target (insert m.source (s.known m.target))

/-- What the target answers or asks, with what it knows by then. -/
def sends (known : α → Finset α) : Msg α → Multiset (Msg α)
  | .ask x y => {.tell y x ((known y).erase x)}
  | .tell _ y names => ((names \ known y).erase y).val.map (.ask y)
  | .greet _ _ => 0

def receive (s : State α) (m : Msg α) : State α :=
  ⟨s.learn m, s.net.erase m + sends (s.learn m) m⟩

end

/-- `x` knows `y`, or will once what is under way has arrived. -/
def Aware (s : State α) (x y : α) : Prop :=
  .ask x y ∈ s.net ∨ (∃ names, .tell y x names ∈ s.net) ∨ y ∈ s.known x

/-- One of two newcomers is on its way to know the other, perhaps through `m`. -/
def Introduced (s : State α) (m x y : α) : Prop :=
  s.Aware x y ∨ s.Aware y x ∨ (∃ names, .tell m x names ∈ s.net ∧ y ∈ names) ∨
    ∃ names, .tell m y names ∈ s.net ∧ x ∈ names

/-- A newcomer has asked a member, or has been told all members, or is on its way to know
them. -/
def Started [DecidableEq α] (members : Finset α) (s : State α) (x : α) : Prop :=
  (∃ m ∈ members, .ask x m ∈ s.net) ∨
    (∃ m ∈ members, ∃ names, .tell m x names ∈ s.net ∧ members.erase m ⊆ names) ∨
    ∀ m ∈ members, s.Aware x m

/-- Nothing but greetings is under way. -/
def Quiet (s : State α) : Prop := ∀ m ∈ s.net, ∃ x y, m = .greet x y

namespace Quiet
variable {s : State α} {x y : α} {names : Finset α}

theorem not_ask (h : s.Quiet) : .ask x y ∉ s.net := by
  intro hask
  obtain ⟨_, _, heq⟩ := h _ hask
  cases heq

theorem not_tell (h : s.Quiet) : .tell x y names ∉ s.net := by
  intro htell
  obtain ⟨_, _, heq⟩ := h _ htell
  cases heq

theorem known_of_aware (h : s.Quiet) (haware : s.Aware x y) : y ∈ s.known x := by
  obtain hask | ⟨names, htell⟩ | hknown := haware
  · exact absurd hask h.not_ask
  · exact absurd htell h.not_tell
  · exact hknown

end Quiet

end State

section
variable [DecidableEq α]

/-- Of the nodes `all`, the `members` do not ask. -/
inductive Step (all members : Finset α) : State α → Event α → State α → Prop
  | start {s : State α} {x : α} {targets : Multiset α} : x ∈ all → x ∉ members →
      (∀ y ∈ targets, y ∈ all ∧ y ≠ x) →
      Step all members s (.start x targets) { s with net := s.net + targets.map (.ask x) }
  | salute {s : State α} {x : α} {targets : Multiset α} : x ∈ all →
      (∀ y ∈ targets, y ∈ s.known x) →
      Step all members s (.salute x targets) { s with net := s.net + targets.map (.greet x) }
  | deliver {s : State α} {m : Msg α} : m ∈ s.net → Step all members s (.deliver m) (s.receive m)
  | copy {s : State α} {m : Msg α} : m ∈ s.net →
      Step all members s (.copy m) { s with net := m ::ₘ s.net }
  | lose {s : State α} {x y : α} : .greet x y ∈ s.net →
      Step all members s (.lose (.greet x y)) { s with net := s.net.erase (.greet x y) }

/-- The members know each other. Who is known, knows back, or is being told. Of two newcomers
that a member knows, one is being introduced to the other. -/
structure Sound (all members : Finset α) (s : State α) : Prop where
  known_mem : ∀ x ∈ all, ∀ y ∈ s.known x, y ∈ all ∧ y ≠ x
  net_mem : ∀ m ∈ s.net, m.source ∈ all ∧ m.target ∈ all ∧ m.source ≠ m.target
  ask_new : ∀ x y, .ask x y ∈ s.net → x ∉ members
  tell_new : ∀ x y names, .tell x y names ∈ s.net → y ∉ members
  tell_known : ∀ x y names, .tell x y names ∈ s.net → y ∈ s.known x ∧ names ⊆ s.known x
  greet_known : ∀ x y, .greet x y ∈ s.net → y ∈ s.known x
  mesh : ∀ x ∈ members, ∀ y ∈ members, x ≠ y → y ∈ s.known x
  mutual_known : ∀ x ∈ all, ∀ y ∈ s.known x, x ∈ s.known y ∨ ∃ names, .tell x y names ∈ s.net
  introduced : ∀ m ∈ members, ∀ x ∈ s.known m, ∀ y ∈ s.known m, x ∉ members → y ∉ members →
    x ≠ y → s.Introduced m x y

variable {all members : Finset α} {s t : State α} {e : Event α} {m m' : Msg α} {x y z : α}
  {names : Finset α}

namespace State

theorem mem_learn : z ∈ s.learn m x ↔ z ∈ s.known x ∨ (x = m.target ∧ z = m.source) := by
  unfold learn
  by_cases h : x = m.target
  · subst h
    simp [or_comm]
  · simp [h]

theorem mem_receive_of_ne (h : m' ∈ s.net) (hne : m' ≠ m) : m' ∈ (s.receive m).net :=
  Multiset.mem_add.mpr (.inl ((Multiset.mem_erase_of_ne hne).mpr h))

theorem mem_receive_of_sends (h : m' ∈ sends (s.learn m) m) : m' ∈ (s.receive m).net :=
  Multiset.mem_add.mpr (.inr h)

theorem mem_of_mem_receive (h : m' ∈ (s.receive m).net) :
    m' ∈ s.net ∨ m' ∈ sends (s.learn m) m := by
  cases Multiset.mem_add.mp h with
  | inl h => exact .inl (Multiset.mem_of_mem_erase h)
  | inr h => exact .inr h

theorem mem_sends_tell {known : α → Finset α} :
    m' ∈ sends known (.tell x y names) ↔ ∃ z ∈ names, z ∉ known y ∧ z ≠ y ∧ m' = .ask y z := by
  simp only [sends, Multiset.mem_map, Finset.mem_val, Finset.mem_erase, Finset.mem_sdiff]
  constructor
  · intro h
    obtain ⟨z, ⟨hne, hz, hnew⟩, rfl⟩ := h
    exact ⟨z, hz, hnew, hne, rfl⟩
  · intro h
    obtain ⟨z, hz, hnew, hne, rfl⟩ := h
    exact ⟨z, ⟨hne, hz, hnew⟩, rfl⟩

end State

open State

namespace Step

/-- What a step does with a message that is under way. -/
theorem kept (h : Step all members s e t) (hm : m ∈ s.net) :
    m ∈ t.net ∨ (e = .deliver m ∧ t = s.receive m) ∨ ∃ x y, m = .greet x y := by
  cases h with
  | start _ _ _ | salute _ _ => exact .inl (Multiset.mem_add.mpr (.inl hm))
  | @deliver m' hm' =>
    by_cases heq : m = m'
    · subst heq
      exact .inr (.inl ⟨rfl, rfl⟩)
    · exact .inl (mem_receive_of_ne hm heq)
  | copy _ => exact .inl (Multiset.mem_cons_of_mem hm)
  | @lose x y _ =>
    by_cases heq : m = .greet x y
    · exact .inr (.inr ⟨x, y, heq⟩)
    · exact .inl ((Multiset.mem_erase_of_ne heq).mpr hm)

/-- Where a message that is under way comes from. -/
theorem origin (h : Step all members s e t) (hm : m ∈ t.net) :
    m ∈ s.net ∨ (∃ x y, m = .ask x y ∧ x ∈ all ∧ x ∉ members ∧ y ∈ all ∧ y ≠ x) ∨
      (∃ x y, m = .greet x y ∧ x ∈ all ∧ y ∈ s.known x) ∨
      ∃ m' ∈ s.net, t = s.receive m' ∧ m ∈ sends (s.learn m') m' := by
  cases h with
  | @start x targets hx hnew htargets =>
    cases Multiset.mem_add.mp hm with
    | inl hm => exact .inl hm
    | inr hm =>
      obtain ⟨y, hy, rfl⟩ := Multiset.mem_map.mp hm
      exact .inr (.inl ⟨x, y, rfl, hx, hnew, htargets y hy⟩)
  | @salute x targets hx htargets =>
    cases Multiset.mem_add.mp hm with
    | inl hm => exact .inl hm
    | inr hm =>
      obtain ⟨y, hy, rfl⟩ := Multiset.mem_map.mp hm
      exact .inr (.inr (.inl ⟨x, y, rfl, hx, htargets y hy⟩))
  | @deliver m' hm' =>
    cases mem_of_mem_receive hm with
    | inl hm => exact .inl hm
    | inr hm => exact .inr (.inr (.inr ⟨m', hm', rfl, hm⟩))
  | copy hm' =>
    cases Multiset.mem_cons.mp hm with
    | inl heq => exact .inl (heq ▸ hm')
    | inr hm => exact .inl hm
  | lose _ => exact .inl (Multiset.mem_of_mem_erase hm)

theorem known_iff (h : Step all members s e t) :
    y ∈ t.known x ↔ y ∈ s.known x ∨ ∃ m, e = .deliver m ∧ x = m.target ∧ y = m.source := by
  cases h with
  | @deliver m hm => exact mem_learn.trans (by simp)
  | _ => simp

theorem known_mono (h : Step all members s e t) (hy : y ∈ s.known x) : y ∈ t.known x :=
  h.known_iff.mpr (.inl hy)

theorem mem_of_deliver (h : Step all members s (.deliver m) t) : m ∈ s.net ∧ t = s.receive m := by
  cases h with
  | deliver hm => exact ⟨hm, rfl⟩

theorem ask_kept (h : Step all members s e t) (hm : .ask x y ∈ s.net) :
    .ask x y ∈ t.net ∨ .tell y x ((t.known y).erase x) ∈ t.net := by
  cases h.kept hm with
  | inl hm => exact .inl hm
  | inr hm =>
    obtain ⟨-, rfl⟩ | ⟨_, _, hgreet⟩ := hm
    · exact .inr (mem_receive_of_sends (Multiset.mem_singleton_self _))
    · cases hgreet

theorem tell_kept (h : Step all members s e t) (hm : .tell x y names ∈ s.net) :
    .tell x y names ∈ t.net ∨
      (x ∈ t.known y ∧ ∀ z ∈ names, z ≠ y → z ∈ t.known y ∨ .ask y z ∈ t.net) := by
  cases h.kept hm with
  | inl hm => exact .inl hm
  | inr hm =>
    obtain ⟨-, rfl⟩ | ⟨_, _, hgreet⟩ := hm
    · refine .inr ⟨mem_learn.mpr (.inr ⟨rfl, rfl⟩), fun z hz hne => ?_⟩
      by_cases hknown : z ∈ s.learn (.tell x y names) y
      · exact .inl hknown
      · exact .inr (mem_receive_of_sends (mem_sends_tell.mpr ⟨z, hz, hknown, hne, rfl⟩))
    · cases hgreet

theorem aware (h : Step all members s e t) (hs : s.Aware x y) : t.Aware x y := by
  obtain hask | ⟨names, htell⟩ | hknown := hs
  · cases h.ask_kept hask with
    | inl hask => exact .inl hask
    | inr htell => exact .inr (.inl ⟨_, htell⟩)
  · cases h.tell_kept htell with
    | inl htell => exact .inr (.inl ⟨names, htell⟩)
    | inr htold => exact .inr (.inr htold.1)
  · exact .inr (.inr (h.known_mono hknown))

/-- Once the names have been told, the newcomer is aware of them. -/
theorem aware_of_tell (h : Step all members s e t) (hm : .tell x y names ∈ s.net) :
    .tell x y names ∈ t.net ∨ (t.Aware y x ∧ ∀ z ∈ names, z ≠ y → t.Aware y z) := by
  refine (h.tell_kept hm).imp id fun htold => ⟨.inr (.inr htold.1), fun z hz hne => ?_⟩
  exact (htold.2 z hz hne).elim (fun hknown => .inr (.inr hknown)) .inl

theorem introduced (h : Step all members s e t) {m : α} (hxy : x ≠ y) (hs : s.Introduced m x y) :
    t.Introduced m x y := by
  obtain haware | haware | ⟨names, htell, hy⟩ | ⟨names, htell, hx⟩ := hs
  · exact .inl (h.aware haware)
  · exact .inr (.inl (h.aware haware))
  · cases h.aware_of_tell htell with
    | inl htell => exact .inr (.inr (.inl ⟨names, htell, hy⟩))
    | inr htold => exact .inl (htold.2 y hy hxy.symm)
  · cases h.aware_of_tell htell with
    | inl htell => exact .inr (.inr (.inr ⟨names, htell, hx⟩))
    | inr htold => exact .inr (.inl (htold.2 x hx hxy))

end Step

namespace Sound

/-- A member comes to know a newcomer only by being asked. -/
theorem new_known (hs : Sound all members s) (h : Step all members s e t) {m : α}
    (hm : m ∈ members) (hx : x ∈ t.known m) :
    x ∈ s.known m ∨ .tell m x ((t.known m).erase x) ∈ t.net := by
  obtain hx | ⟨msg, rfl, htarget, hsource⟩ := h.known_iff.mp hx
  · exact .inl hx
  · obtain ⟨hmsg, rfl⟩ := h.mem_of_deliver
    subst htarget hsource
    cases msg with
    | ask x y => exact .inr (mem_receive_of_sends (Multiset.mem_singleton_self _))
    | tell x y names => exact absurd hm (hs.tell_new x y names hmsg)
    | greet x y =>
      have hx : x ∈ all := (hs.net_mem _ hmsg).1
      obtain hback | ⟨names, htell⟩ := hs.mutual_known x hx y (hs.greet_known x y hmsg)
      · exact .inl hback
      · exact absurd hm (hs.tell_new x y names htell)

theorem net_mem_sends (hs : Sound all members s) (hm : m ∈ s.net)
    (hm' : m' ∈ sends (s.learn m) m) :
    m'.source = m.target ∧ m'.target ∈ all ∧ m'.target ≠ m.target := by
  obtain ⟨hsource, htarget, hne⟩ := hs.net_mem m hm
  cases m with
  | ask x y =>
    obtain rfl := Multiset.mem_singleton.mp hm'
    exact ⟨rfl, hsource, hne⟩
  | tell x y names =>
    obtain ⟨z, hz, -, hzy, rfl⟩ := mem_sends_tell.mp hm'
    exact ⟨rfl, (hs.known_mem x hsource z ((hs.tell_known x y names hm).2 hz)).1, hzy⟩
  | greet x y => cases Multiset.notMem_zero _ hm'

theorem step_mutual (hs : Sound all members s) (h : Step all members s e t) (hx : x ∈ all)
    (hy : y ∈ t.known x) : x ∈ t.known y ∨ ∃ names, .tell x y names ∈ t.net := by
  obtain hy | ⟨msg, rfl, htarget, hsource⟩ := h.known_iff.mp hy
  · obtain hback | ⟨names, htell⟩ := hs.mutual_known x hx y hy
    · exact .inl (h.known_mono hback)
    · cases h.tell_kept htell with
      | inl htell => exact .inr ⟨names, htell⟩
      | inr htold => exact .inl htold.1
  · obtain ⟨hmsg, rfl⟩ := h.mem_of_deliver
    subst htarget hsource
    cases msg with
    | ask x y => exact .inr ⟨_, mem_receive_of_sends (Multiset.mem_singleton_self _)⟩
    | tell x y names => exact .inl (h.known_mono (hs.tell_known x y names hmsg).1)
    | greet x y => exact .inl (h.known_mono (hs.greet_known x y hmsg))

/-- Every step keeps the invariant. -/
theorem step (hs : Sound all members s) (h : Step all members s e t) : Sound all members t where
  known_mem := by
    intro x hx y hy
    obtain hy | ⟨msg, rfl, htarget, hsource⟩ := h.known_iff.mp hy
    · exact hs.known_mem x hx y hy
    · obtain ⟨hsource', -, hne⟩ := hs.net_mem msg h.mem_of_deliver.1
      subst htarget hsource
      exact ⟨hsource', hne⟩
  net_mem := by
    intro m hm
    obtain hm | ⟨x, y, rfl, hx, -, hy, hne⟩ | ⟨x, y, rfl, hx, hy⟩ | ⟨m', hm', rfl, hsent⟩ :=
      h.origin hm
    · exact hs.net_mem m hm
    · exact ⟨hx, hy, hne.symm⟩
    · obtain ⟨hall, hne⟩ := hs.known_mem x hx y hy
      exact ⟨hx, hall, hne.symm⟩
    · obtain ⟨hsource, htarget, hne⟩ := hs.net_mem_sends hm' hsent
      rw [hsource]
      exact ⟨(hs.net_mem m' hm').2.1, htarget, hne.symm⟩
  ask_new := by
    intro x y hm
    obtain hm | ⟨x', y', heq, -, hnew, -⟩ | ⟨_, _, heq, -⟩ | ⟨m', hm', rfl, hsent⟩ := h.origin hm
    · exact hs.ask_new x y hm
    · cases heq
      exact hnew
    · cases heq
    · cases m' with
      | ask x' y' => cases Multiset.mem_singleton.mp hsent
      | tell x' y' names =>
        obtain ⟨z, -, -, -, heq⟩ := mem_sends_tell.mp hsent
        cases heq
        exact hs.tell_new x' x names hm'
      | greet x' y' => cases Multiset.notMem_zero _ hsent
  tell_new := by
    intro x y names hm
    obtain hm | ⟨_, _, heq, -⟩ | ⟨_, _, heq, -⟩ | ⟨m', hm', rfl, hsent⟩ := h.origin hm
    · exact hs.tell_new x y names hm
    · cases heq
    · cases heq
    · cases m' with
      | ask x' y' =>
        cases Multiset.mem_singleton.mp hsent
        exact hs.ask_new y x hm'
      | tell x' y' names' =>
        obtain ⟨z, -, -, -, heq⟩ := mem_sends_tell.mp hsent
        cases heq
      | greet x' y' => cases Multiset.notMem_zero _ hsent
  tell_known := by
    intro x y names hm
    obtain hm | ⟨_, _, heq, -⟩ | ⟨_, _, heq, -⟩ | ⟨m', hm', rfl, hsent⟩ := h.origin hm
    · obtain ⟨hy, hnames⟩ := hs.tell_known x y names hm
      exact ⟨h.known_mono hy, fun z hz => h.known_mono (hnames hz)⟩
    · cases heq
    · cases heq
    · cases m' with
      | ask x' y' =>
        cases Multiset.mem_singleton.mp hsent
        exact ⟨mem_learn.mpr (.inr ⟨rfl, rfl⟩), Finset.erase_subset _ _⟩
      | tell x' y' names' =>
        obtain ⟨z, -, -, -, heq⟩ := mem_sends_tell.mp hsent
        cases heq
      | greet x' y' => cases Multiset.notMem_zero _ hsent
  greet_known := by
    intro x y hm
    obtain hm | ⟨_, _, heq, -⟩ | ⟨x', y', heq, -, hy⟩ | ⟨m', hm', rfl, hsent⟩ := h.origin hm
    · exact h.known_mono (hs.greet_known x y hm)
    · cases heq
    · cases heq
      exact h.known_mono hy
    · cases m' with
      | ask x' y' => cases Multiset.mem_singleton.mp hsent
      | tell x' y' names' =>
        obtain ⟨z, -, -, -, heq⟩ := mem_sends_tell.mp hsent
        cases heq
      | greet x' y' => cases Multiset.notMem_zero _ hsent
  mesh := fun x hx y hy hne => h.known_mono (hs.mesh x hx y hy hne)
  mutual_known := fun x hx y hy => hs.step_mutual h hx hy
  introduced := by
    intro m hm x hx y hy hxnew hynew hxy
    cases hs.new_known h hm hx with
    | inr htell =>
      exact .inr (.inr (.inl ⟨_, htell, Finset.mem_erase.mpr ⟨hxy.symm, hy⟩⟩))
    | inl hx' =>
      cases hs.new_known h hm hy with
      | inr htell => exact .inr (.inr (.inr ⟨_, htell, Finset.mem_erase.mpr ⟨hxy, hx⟩⟩))
      | inl hy' => exact h.introduced hxy (hs.introduced m hm x hx' y hy' hxnew hynew hxy)

theorem run (hs : Sound all members s) {es : List (Event α)} (h : Run (Step all members) s es t) :
    Sound all members t :=
  h.invariant (Sound all members) (fun _ _ _ hs hstep => hs.step hstep) hs

theorem started_step (hs : Sound all members s) (h : Step all members s e t) (hx : x ∉ members)
    (hstarted : s.Started members x) : t.Started members x := by
  obtain ⟨m, hm, hask⟩ | ⟨m, hm, names, htell, hnames⟩ | haware := hstarted
  · cases h.ask_kept hask with
    | inl hask => exact .inl ⟨m, hm, hask⟩
    | inr htell =>
      refine .inr (.inl ⟨m, hm, _, htell, fun z hz => ?_⟩)
      obtain ⟨hne, hz⟩ := Finset.mem_erase.mp hz
      have hzx : z ≠ x := fun heq => hx (heq ▸ hz)
      exact Finset.mem_erase.mpr ⟨hzx, (hs.step h).mesh m hm z hz hne.symm⟩
  · cases h.aware_of_tell htell with
    | inl htell => exact .inr (.inl ⟨m, hm, names, htell, hnames⟩)
    | inr htold =>
      refine .inr (.inr fun z hz => ?_)
      by_cases hzm : z = m
      · rw [hzm]
        exact htold.1
      · exact htold.2 z (hnames (Finset.mem_erase.mpr ⟨hzm, hz⟩)) fun heq => hx (heq ▸ hz)
  · exact .inr (.inr fun m hm => h.aware (haware m hm))

theorem started_run (hs : Sound all members s) {es : List (Event α)}
    (h : Run (Step all members) s es t) (hx : x ∉ members) (hstarted : s.Started members x) :
    t.Started members x := by
  induction h with
  | nil s => exact hstarted
  | cons hone hrest ih => exact ih (hs.step hone) (hs.started_step hone hx hstarted)

/-- A newcomer that has asked a member at some time is on its way. -/
theorem started_of_mem (hs : Sound all members s) {es : List (Event α)}
    (h : Run (Step all members) s es t) {targets : Multiset α} {m : α} (hm : m ∈ members)
    (hask : .start x targets ∈ es) (htarget : m ∈ targets) : t.Started members x := by
  induction h with
  | nil s => cases hask
  | @cons s t u e es hone hrest ih =>
    cases List.mem_cons.mp hask with
    | inr hlater => exact ih (hs.step hone) hlater
    | inl hfirst =>
      subst hfirst
      refine (hs.step hone).started_run hrest ?_ ?_
      all_goals
        cases hone with
        | start hx hnew htargets => ?_
      · exact hnew
      · exact .inl ⟨m, hm, Multiset.mem_add.mpr (.inr (Multiset.mem_map_of_mem _ htarget))⟩

omit [DecidableEq α] in
theorem known_back (hs : Sound all members s) (hquiet : s.Quiet) (hx : x ∈ all)
    (hy : y ∈ s.known x) : x ∈ s.known y := by
  obtain hback | ⟨names, htell⟩ := hs.mutual_known x hx y hy
  · exact hback
  · exact absurd htell hquiet.not_tell

/-- When nothing but greetings is under way and every newcomer has asked a member, everybody
knows everybody. -/
theorem complete (hs : Sound all members s) (hquiet : s.Quiet) (hne : members.Nonempty)
    (hstarted : ∀ x ∈ all, x ∉ members → s.Started members x)
    (hx : x ∈ all) (hy : y ∈ all) (hxy : x ≠ y) : y ∈ s.known x := by
  have newcomer : ∀ x ∈ all, x ∉ members → ∀ m ∈ members, m ∈ s.known x := by
    intro x hx hnew m hm
    obtain ⟨m', -, hask⟩ | ⟨m', -, names, htell, -⟩ | haware := hstarted x hx hnew
    · exact absurd hask hquiet.not_ask
    · exact absurd htell hquiet.not_tell
    · exact hquiet.known_of_aware (haware m hm)
  by_cases hxm : x ∈ members
  · by_cases hym : y ∈ members
    · exact hs.mesh x hxm y hym hxy
    · exact hs.known_back hquiet hy (newcomer y hy hym x hxm)
  · by_cases hym : y ∈ members
    · exact newcomer x hx hxm y hym
    · -- both are newcomers: any member knows them, and has introduced one to the other
      obtain ⟨m, hm⟩ := hne
      have hxk := hs.known_back hquiet hx (newcomer x hx hxm m hm)
      have hyk := hs.known_back hquiet hy (newcomer y hy hym m hm)
      obtain haware | haware | ⟨names, htell, -⟩ | ⟨names, htell, -⟩ :=
        hs.introduced m hm x hxk y hyk hxm hym hxy
      · exact hquiet.known_of_aware haware
      · exact hs.known_back hquiet hy (hquiet.known_of_aware haware)
      · exact absurd htell hquiet.not_tell
      · exact absurd htell hquiet.not_tell

end Sound

section Termination

/-- How many nodes are not known, over all nodes. -/
def unknown (all : Finset α) (s : State α) : ℕ := ∑ x ∈ all, (all \ s.known x).card

/-- A message that brings nothing new: a question is still to be answered. -/
def stale (known : α → Finset α) : Msg α → ℕ
  | .ask x y => if y ∈ known x then 2 else 0
  | .tell x y _ => if x ∈ known y then 1 else 0
  | .greet _ _ => 0

def fresh (known : α → Finset α) : Msg α → ℕ
  | .ask x y => if y ∈ known x then 0 else 1
  | .tell _ _ _ => 0
  | .greet _ _ => 1

def rank (all : Finset α) (s : State α) : ℕ ×ₗ ℕ ×ₗ ℕ :=
  toLex (unknown all s,
    toLex ((s.net.map (stale s.known)).sum, (s.net.map (fresh s.known)).sum))

theorem unknown_receive_lt (hsource : m.source ∈ all) (htarget : m.target ∈ all)
    (hnew : m.source ∉ s.known m.target) : unknown all (s.receive m) < unknown all s := by
  have hsub : ∀ x, all \ (s.receive m).known x ⊆ all \ s.known x := fun x =>
    Finset.sdiff_subset_sdiff subset_rfl fun z hz => mem_learn.mpr (.inl hz)
  refine Finset.sum_lt_sum (fun x _ => Finset.card_le_card (hsub x)) ⟨m.target, htarget, ?_⟩
  refine Finset.card_lt_card ((Finset.ssubset_iff_of_subset (hsub _)).mpr
    ⟨m.source, Finset.mem_sdiff.mpr ⟨hsource, hnew⟩, fun h => ?_⟩)
  exact (Finset.mem_sdiff.mp h).2 (mem_learn.mpr (.inr ⟨rfl, rfl⟩))

theorem learn_of_known (h : m.source ∈ s.known m.target) : s.learn m = s.known := by
  rw [learn, Finset.insert_eq_of_mem h, Function.update_eq_self]

theorem sum_net (f : Msg α → ℕ) (hm : m ∈ s.net) :
    (s.net.map f).sum = f m + ((s.net.erase m).map f).sum := by
  rw [← Multiset.sum_cons, ← Multiset.map_cons, Multiset.cons_erase hm]

/-- A message from a node that is known already: the stale ones get fewer, or they do not get
more and the others get fewer. -/
theorem sends_lt (hknown : m.source ∈ s.known m.target) :
    ((sends s.known m).map (stale s.known)).sum < stale s.known m ∨
      (((sends s.known m).map (stale s.known)).sum = stale s.known m ∧
        ((sends s.known m).map (fresh s.known)).sum < fresh s.known m) := by
  cases m with
  | ask x y =>
    by_cases h : y ∈ s.known x
    · exact .inl (by simp [sends, stale, h])
    · exact .inr (by simp [sends, stale, fresh, h])
  | tell x y names =>
    have hx : x ∈ s.known y := hknown
    have hzero : ((sends s.known (.tell x y names)).map (stale s.known)).sum = 0 := by
      refine Multiset.sum_eq_zero fun n hn => ?_
      obtain ⟨m', hm', rfl⟩ := Multiset.mem_map.mp hn
      obtain ⟨z, -, hz, -, rfl⟩ := mem_sends_tell.mp hm'
      exact if_neg hz
    exact .inl (by rw [hzero]; simp [stale, hx])
  | greet x y => exact .inr (by simp [sends, stale, fresh])

theorem rank_receive_lt (hs : Sound all members s) (hm : m ∈ s.net) :
    rank all (s.receive m) < rank all s := by
  obtain ⟨hsource, htarget, -⟩ := hs.net_mem m hm
  refine Prod.Lex.toLex_lt_toLex.mpr ?_
  by_cases hknown : m.source ∈ s.known m.target
  · have hsame : (s.receive m).known = s.known := learn_of_known hknown
    have hnet : (s.receive m).net = s.net.erase m + sends s.known m := by
      rw [receive, learn_of_known hknown]
    refine .inr ⟨by rw [unknown, unknown, hsame], Prod.Lex.toLex_lt_toLex.mpr ?_⟩
    rw [hsame, hnet, sum_net (stale s.known) hm, sum_net (fresh s.known) hm]
    simp only [Multiset.map_add, Multiset.sum_add]
    have hlt := sends_lt hknown
    omega
  · exact .inl (unknown_receive_lt hsource htarget hknown)

/-- One message arrives. -/
def Delivers (s t : State α) : Prop := ∃ m ∈ s.net, t = s.receive m

/-- However the messages are delivered, it comes to an end. -/
theorem Sound.acc (hs : Sound all members s) : Acc (fun t s => Delivers s t) s := by
  generalize hr : rank all s = r
  induction r using WellFoundedLT.induction generalizing s with
  | ind r ih =>
    refine .intro s fun t ht => ?_
    obtain ⟨m, hm, rfl⟩ := ht
    exact ih _ (hr ▸ rank_receive_lt hs hm) (hs.step (.deliver hm)) rfl

end Termination

end

end HeadEnd.Discovery
