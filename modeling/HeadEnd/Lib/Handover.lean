import HeadEnd.Lib.Transition
import Mathlib.Data.Multiset.AddSub
import Mathlib.Order.BooleanAlgebra.Set

/-! Handing an item over. A holder asks another party to take it; that party takes it, puts
itself on record and says so; then the first one lets go. -/
namespace HeadEnd.Handover
variable {α ι : Type*}

inductive Msg (α : Type*) where
  | ask (giver taker : α)
  | taken (giver taker : α)
  deriving DecidableEq

structure State (α ι : Type*) where
  holders : Set α
  record : ι
  net : Multiset (Msg α)

section
variable [DecidableEq α] (name : α → ι)

/-- One holder asks at a time. A request may come to nothing, a confirmation may not. -/
inductive Step : State α ι → State α ι → Prop
  | ask {s : State α ι} {giver taker : α} : giver ∈ s.holders → giver ≠ taker → s.net = 0 →
      Step s { s with net := {.ask giver taker} }
  | drop {s : State α ι} {giver taker : α} : .ask giver taker ∈ s.net →
      Step s { s with net := s.net.erase (.ask giver taker) }
  | take {s : State α ι} {giver taker : α} : .ask giver taker ∈ s.net →
      Step s ⟨insert taker s.holders, name taker,
        s.net.erase (.ask giver taker) + {.taken giver taker}⟩
  | settle {s : State α ι} {giver taker : α} : .taken giver taker ∈ s.net →
      Step s { s with holders := s.holders \ {giver}, net := s.net.erase (.taken giver taker) }

end

/-- There is one holder, which is on record, but for the time in which its predecessor has not
heard of it yet. -/
inductive Orderly (name : α → ι) : State α ι → Prop
  | kept (holder : α) : Orderly name ⟨{holder}, name holder, 0⟩
  | asked {giver taker : α} : giver ≠ taker →
      Orderly name ⟨{giver}, name giver, {.ask giver taker}⟩
  | taken {giver taker : α} : giver ≠ taker →
      Orderly name ⟨{giver, taker}, name taker, {.taken giver taker}⟩

theorem Orderly.step [DecidableEq α] {name : α → ι} {s t : State α ι} (h : Orderly name s)
    (hstep : Step name s t) : Orderly name t := by
  cases h with
  | kept holder =>
    cases hstep with
    | ask hholder hne _ =>
      obtain rfl := Set.mem_singleton_iff.mp hholder
      exact .asked hne
    | drop hmem => exact absurd hmem (Multiset.notMem_zero _)
    | take hmem => exact absurd hmem (Multiset.notMem_zero _)
    | settle hmem => exact absurd hmem (Multiset.notMem_zero _)
  | asked hne =>
    cases hstep with
    | ask _ _ hnet => exact absurd hnet (Multiset.singleton_ne_zero _)
    | drop hmem =>
      obtain ⟨rfl, rfl⟩ := Msg.ask.inj (Multiset.mem_singleton.mp hmem)
      rw [Multiset.erase_singleton]
      exact .kept _
    | take hmem =>
      obtain ⟨rfl, rfl⟩ := Msg.ask.inj (Multiset.mem_singleton.mp hmem)
      rw [Multiset.erase_singleton, Multiset.zero_add, Set.pair_comm]
      exact .taken hne
    | settle hmem => cases Multiset.mem_singleton.mp hmem
  | taken hne =>
    cases hstep with
    | ask _ _ hnet => exact absurd hnet (Multiset.singleton_ne_zero _)
    | drop hmem => cases Multiset.mem_singleton.mp hmem
    | take hmem => cases Multiset.mem_singleton.mp hmem
    | settle hmem =>
      obtain ⟨rfl, rfl⟩ := Msg.taken.inj (Multiset.mem_singleton.mp hmem)
      rw [Multiset.erase_singleton, Set.insert_sdiff_of_mem _ (Set.mem_singleton _),
        Set.sdiff_singleton_eq_self (Set.mem_singleton_iff.not.mpr hne)]
      exact .kept _

theorem Orderly.exists_record {name : α → ι} {s : State α ι} (h : Orderly name s) :
    ∃ a ∈ s.holders, s.record = name a := by
  cases h with
  | kept holder => exact ⟨holder, rfl, rfl⟩
  | asked _ => exact ⟨_, rfl, rfl⟩
  | taken _ => exact ⟨_, .inr rfl, rfl⟩

/-- Who has not let go yet is still a holder. -/
theorem Orderly.giver_mem {name : α → ι} {s : State α ι} (h : Orderly name s) {giver taker : α}
    (hmem : .taken giver taker ∈ s.net) : giver ∈ s.holders := by
  cases h with
  | kept _ => exact absurd hmem (Multiset.notMem_zero _)
  | asked _ => cases Multiset.mem_singleton.mp hmem
  | taken _ =>
    obtain ⟨rfl, rfl⟩ := Msg.taken.inj (Multiset.mem_singleton.mp hmem)
    exact .inl rfl

end HeadEnd.Handover
