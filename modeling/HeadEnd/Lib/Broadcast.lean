import HeadEnd.Lib.Transition
import Mathlib.Algebra.Order.Group.Multiset
import Mathlib.Data.Finset.Defs

/-! A value of which every node has a copy. Whoever changes it changes its own copy first and
sends the value to other nodes later; what arrives replaces the copy, in whatever order. -/
namespace HeadEnd.Broadcast
open Transition
variable {ι V : Type*}

/-- `pending` holds who has changed its copy and has yet to send the value, `net` who is about
to receive it. -/
structure State (ι V : Type*) where
  copy : ι → V
  pending : Multiset (ι × V)
  net : Multiset (ι × V)

inductive Event (ι V : Type*) where
  | set (x : ι) (v : V)
  | write (x : ι) (v : V)
  | send (x : ι) (v : V) (targets : Multiset ι)
  | deliver (y : ι) (v : V)
  | duplicate (y : ι) (v : V)
  | lose (y : ι) (v : V)

namespace Event

/-- The value written last, `v` being the one before. -/
def latest (v : Option V) : Event ι V → Option V
  | write _ w => some w
  | _ => v

/-- A node changes its own copy to what is in `own`, and sends what is in `sent`. -/
def Within (own : ι → Set V) (sent : Set V) : Event ι V → Prop
  | set x v => v ∈ own x
  | write _ v => v ∈ sent
  | _ => True

/-- Nothing is set, written or lost. What one of the two sends goes to the other, and not to
itself. -/
def Between (x y : ι) : Event ι V → Prop
  | send z _ targets => (z = x → y ∈ targets ∧ x ∉ targets) ∧ (z = y → x ∈ targets ∧ y ∉ targets)
  | deliver _ _ | duplicate _ _ => True
  | _ => False

/-- Nothing arrives at `y`. -/
def Unheard (y : ι) : Event ι V → Prop
  | deliver z _ => z ≠ y
  | _ => True

end Event

/-- A value is written when nothing is under way, and is sent to all others. Nothing is
lost, and no copy is changed otherwise. -/
def Serial (all : Finset ι) (s : State ι V) : Event ι V → Prop
  | .set _ _ => False
  | .write _ _ => s.pending = 0 ∧ s.net = 0
  | .send x _ targets => ∀ y ∈ all, y ≠ x → y ∈ targets
  | .lose _ _ => False
  | _ => True

/-- Only the value written last is under way, and who does not have it will get it. -/
structure Current (all : Finset ι) (last : Option V) (s : State ι V) : Prop where
  pending : ∀ m ∈ s.pending, last = some m.2
  net : ∀ m ∈ s.net, last = some m.2
  copy : ∀ v, last = some v → ∀ x ∈ all,
    s.copy x = v ∨ (x, v) ∈ s.net ∨ ∃ y, y ≠ x ∧ (y, v) ∈ s.pending

theorem Current.start {all : Finset ι} {s : State ι V} (hpending : s.pending = 0)
    (hnet : s.net = 0) : Current all none s where
  pending m hm := absurd (hpending ▸ hm) (Multiset.notMem_zero m)
  net m hm := absurd (hnet ▸ hm) (Multiset.notMem_zero m)
  copy _ h := by cases h

/-- When nothing is under way, all have the value written last. -/
theorem Current.agree {all : Finset ι} {v : V} {s : State ι V} (hs : Current all (some v) s)
    (hpending : s.pending = 0) (hnet : s.net = 0) (x : ι) (hx : x ∈ all) : s.copy x = v := by
  obtain hcopy | hm | ⟨y, -, hm⟩ := hs.copy v rfl x hx
  · exact hcopy
  · exact absurd (hnet ▸ hm) (Multiset.notMem_zero _)
  · exact absurd (hpending ▸ hm) (Multiset.notMem_zero _)

/-- Only `x` has written, and its value has not reached `y` but will. -/
structure Underway (x : ι) (v : V) (y : ι) (s : State ι V) : Prop where
  pending : ∀ m ∈ s.pending, m = (x, v)
  net : ∀ m ∈ s.net, m.1 ≠ x ∧ m.2 = v
  coming : (y, v) ∈ s.net ∨ (x, v) ∈ s.pending

/-- Both have written, and each has the value of the other or will get it. -/
structure Crossed (x : ι) (v : V) (y : ι) (w : V) (s : State ι V) : Prop where
  pending : ∀ m ∈ s.pending, m = (x, v) ∨ m = (y, w)
  net : ∀ m ∈ s.net, (m.1 ≠ x ∧ m.2 = v) ∨ (m.1 ≠ y ∧ m.2 = w)
  left : s.copy x = w ∨ (x, w) ∈ s.net ∨ (y, w) ∈ s.pending
  right : s.copy y = v ∨ (y, v) ∈ s.net ∨ (x, v) ∈ s.pending

theorem Crossed.symm {x y : ι} {v w : V} {s : State ι V} (hs : Crossed x v y w s) :
    Crossed y w x v s :=
  ⟨fun m hm => (hs.pending m hm).symm, fun m hm => (hs.net m hm).symm, hs.right, hs.left⟩

/-- When nothing is under way, `x` has the value of `y`. -/
theorem Crossed.copy_eq {x y : ι} {v w : V} {s : State ι V} (hs : Crossed x v y w s)
    (hpending : s.pending = 0) (hnet : s.net = 0) : s.copy x = w := by
  obtain hcopy | hm | hm := hs.left
  · exact hcopy
  · exact absurd (hnet ▸ hm) (Multiset.notMem_zero _)
  · exact absurd (hpending ▸ hm) (Multiset.notMem_zero _)

theorem update_origin [DecidableEq ι] {s : State ι V} {own : ι → Set V} {sent : Set V} {y : ι}
    {v : V} (hv : v ∈ own y ∨ v ∈ sent) (x : ι) :
    Function.update s.copy y v x = s.copy x ∨ Function.update s.copy y v x ∈ own x ∨
      Function.update s.copy y v x ∈ sent := by
  by_cases hx : x = y
  · rw [hx, Function.update_self]
    exact .inr hv
  · exact .inl (Function.update_of_ne hx _ _)

section
variable [DecidableEq ι] [DecidableEq V]

inductive Step : State ι V → Event ι V → State ι V → Prop
  | set {s : State ι V} {x : ι} {v : V} :
      Step s (.set x v) { s with copy := Function.update s.copy x v }
  | write {s : State ι V} {x : ι} {v : V} :
      Step s (.write x v)
        { s with copy := Function.update s.copy x v, pending := (x, v) ::ₘ s.pending }
  | send {s : State ι V} {x : ι} {v : V} {targets : Multiset ι} : (x, v) ∈ s.pending →
      Step s (.send x v targets)
        { s with
          pending := s.pending.erase (x, v)
          net := s.net + targets.map fun y => (y, v) }
  | deliver {s : State ι V} {y : ι} {v : V} : (y, v) ∈ s.net →
      Step s (.deliver y v)
        { s with copy := Function.update s.copy y v, net := s.net.erase (y, v) }
  | duplicate {s : State ι V} {y : ι} {v : V} : (y, v) ∈ s.net →
      Step s (.duplicate y v) { s with net := (y, v) ::ₘ s.net }
  | lose {s : State ι V} {y : ι} {v : V} : (y, v) ∈ s.net →
      Step s (.lose y v) { s with net := s.net.erase (y, v) }

variable {s t : State ι V} {e : Event ι V} {es : List (Event ι V)}

section Origin
variable {own : ι → Set V} {sent : Set V}

theorem Step.origin (h : Step s e t) (hpending : ∀ m ∈ s.pending, m.2 ∈ sent)
    (hnet : ∀ m ∈ s.net, m.2 ∈ sent) (he : e.Within own sent) :
    (∀ m ∈ t.pending, m.2 ∈ sent) ∧ (∀ m ∈ t.net, m.2 ∈ sent) ∧
      ∀ x, t.copy x = s.copy x ∨ t.copy x ∈ own x ∨ t.copy x ∈ sent := by
  cases h with
  | set => exact ⟨hpending, hnet, update_origin (.inl he)⟩
  | write => exact ⟨Multiset.forall_mem_cons.mpr ⟨he, hpending⟩, hnet, update_origin (.inr he)⟩
  | @send x v targets hm =>
    refine ⟨fun m hm' => hpending m (Multiset.mem_of_mem_erase hm'), fun m hm' => ?_,
      fun _ => .inl rfl⟩
    cases Multiset.mem_add.mp hm' with
    | inl hm' => exact hnet m hm'
    | inr hm' =>
      obtain ⟨y, -, rfl⟩ := Multiset.mem_map.mp hm'
      exact hpending (x, v) hm
  | deliver hm =>
    exact ⟨hpending, fun m hm' => hnet m (Multiset.mem_of_mem_erase hm'),
      update_origin (.inr (hnet _ hm))⟩
  | duplicate hm =>
    exact ⟨hpending, Multiset.forall_mem_cons.mpr ⟨hnet _ hm, hnet⟩, fun _ => .inl rfl⟩
  | lose hm =>
    exact ⟨hpending, fun m hm' => hnet m (Multiset.mem_of_mem_erase hm'), fun _ => .inl rfl⟩

/-- A copy is as it was at first, or was set by the node itself, or was sent by one. -/
theorem origin_of_run (h : Run Step s es t) (hpending : ∀ m ∈ s.pending, m.2 ∈ sent)
    (hnet : ∀ m ∈ s.net, m.2 ∈ sent) (hes : ∀ e ∈ es, e.Within own sent) (x : ι) :
    t.copy x = s.copy x ∨ t.copy x ∈ own x ∨ t.copy x ∈ sent := by
  induction h with
  | nil s => exact .inl rfl
  | @cons s t u e es hone hrest ih =>
    obtain ⟨he, hes⟩ := List.forall_mem_cons.mp hes
    obtain ⟨hpending', hnet', hcopy⟩ := hone.origin hpending hnet he
    cases ih hpending' hnet' hes with
    | inr horigin => exact .inr horigin
    | inl hsame =>
      rw [hsame]
      exact hcopy x

end Origin

section Swap
variable {x y : ι} {v w : V}

/-- When nothing is under way, nothing is until somebody writes. -/
theorem Step.quiet (h : Step s e t) (he : e.Between x y) (hpending : s.pending = 0)
    (hnet : s.net = 0) : t.pending = 0 ∧ t.net = 0 := by
  cases h with
  | set | write | lose _ => cases he
  | send hm => exact absurd (hpending ▸ hm) (Multiset.notMem_zero _)
  | deliver hm | duplicate hm => exact absurd (hnet ▸ hm) (Multiset.notMem_zero _)

theorem Underway.of_write (hpending : s.pending = 0) (hnet : s.net = 0)
    (h : Step s (.write x v) t) : Underway x v y t := by
  cases h with
  | write =>
    refine ⟨fun m hm => ?_, fun m hm => absurd (hnet ▸ hm) (Multiset.notMem_zero m),
      .inr (Multiset.mem_cons_self _ _)⟩
    rw [hpending] at hm
    exact Multiset.mem_singleton.mp hm

theorem Underway.step (hs : Underway x v y s) (he : e.Between x y) (hy : e.Unheard y)
    (h : Step s e t) : Underway x v y t := by
  cases h with
  | set | write | lose _ => cases he
  | @send z u targets hm =>
    obtain ⟨rfl, rfl⟩ := Prod.mk.inj (hs.pending _ hm)
    obtain ⟨hto, hself⟩ := he.1 rfl
    refine ⟨fun m hm' => hs.pending m (Multiset.mem_of_mem_erase hm'), fun m hm' => ?_,
      .inl (Multiset.mem_add.mpr (.inr (Multiset.mem_map_of_mem _ hto)))⟩
    cases Multiset.mem_add.mp hm' with
    | inl hm' => exact hs.net m hm'
    | inr hm' =>
      obtain ⟨a, ha, rfl⟩ := Multiset.mem_map.mp hm'
      exact ⟨fun heq => hself (heq ▸ ha), rfl⟩
  | @deliver z u hm =>
    refine ⟨hs.pending, fun m hm' => hs.net m (Multiset.mem_of_mem_erase hm'), ?_⟩
    exact hs.coming.imp_left
      (Multiset.mem_erase_of_ne fun heq => hy (congrArg Prod.fst heq).symm).mpr
  | duplicate hm =>
    exact ⟨hs.pending, Multiset.forall_mem_cons.mpr ⟨hs.net _ hm, hs.net⟩,
      hs.coming.imp_left Multiset.mem_cons_of_mem⟩

theorem Underway.crossed (hs : Underway x v y s) (h : Step s (.write y w) t) :
    Crossed x v y w t := by
  cases h with
  | write =>
    refine ⟨Multiset.forall_mem_cons.mpr ⟨.inr rfl, fun m hm => .inl (hs.pending m hm)⟩,
      fun m hm => .inl (hs.net m hm), .inr (.inr (Multiset.mem_cons_self _ _)), .inr ?_⟩
    exact hs.coming.imp_right Multiset.mem_cons_of_mem

/-- What `x` sends is for `y`. -/
theorem Crossed.send {targets : Multiset ι} (hs : Crossed x v y w s) (hxy : x ≠ y)
    (hto : y ∈ targets) (hself : x ∉ targets) :
    Crossed x v y w ⟨s.copy, s.pending.erase (x, v), s.net + targets.map fun z => (z, v)⟩ := by
  have hne : (y, w) ≠ (x, v) := fun heq => hxy (congrArg Prod.fst heq).symm
  refine ⟨fun m hm => hs.pending m (Multiset.mem_of_mem_erase hm), fun m hm => ?_, ?_,
    .inr (.inl (Multiset.mem_add.mpr (.inr (Multiset.mem_map_of_mem _ hto))))⟩
  · cases Multiset.mem_add.mp hm with
    | inl hm => exact hs.net m hm
    | inr hm =>
      obtain ⟨a, ha, rfl⟩ := Multiset.mem_map.mp hm
      exact .inl ⟨fun heq => hself (heq ▸ ha), rfl⟩
  · refine hs.left.imp id (.imp (fun hm => Multiset.mem_add.mpr (.inl hm)) fun hm => ?_)
    exact (Multiset.mem_erase_of_ne hne).mpr hm

/-- Whatever arrives at `x` is the value of `y`. -/
theorem Crossed.left_deliver {z : ι} {u : V} (hs : Crossed x v y w s) (hm : (z, u) ∈ s.net) :
    Function.update s.copy z u x = w ∨ (x, w) ∈ s.net.erase (z, u) ∨ (y, w) ∈ s.pending := by
  by_cases hxz : x = z
  · subst hxz
    rw [Function.update_self]
    exact .inl ((hs.net _ hm).resolve_left fun h => h.1 rfl).2
  · rw [Function.update_of_ne hxz]
    refine hs.left.imp id (.imp_left fun hm' => ?_)
    exact (Multiset.mem_erase_of_ne fun heq => hxz (congrArg Prod.fst heq)).mpr hm'

theorem Crossed.step (hs : Crossed x v y w s) (hxy : x ≠ y) (he : e.Between x y)
    (h : Step s e t) : Crossed x v y w t := by
  cases h with
  | set | write | lose _ => cases he
  | @send z u targets hm =>
    cases hs.pending _ hm with
    | inl heq =>
      obtain ⟨rfl, rfl⟩ := Prod.mk.inj heq
      exact hs.send hxy (he.1 rfl).1 (he.1 rfl).2
    | inr heq =>
      obtain ⟨rfl, rfl⟩ := Prod.mk.inj heq
      exact (hs.symm.send hxy.symm (he.2 rfl).1 (he.2 rfl).2).symm
  | deliver hm =>
    exact ⟨hs.pending, fun m hm' => hs.net m (Multiset.mem_of_mem_erase hm'),
      hs.left_deliver hm, hs.symm.left_deliver hm⟩
  | duplicate hm =>
    exact ⟨hs.pending, Multiset.forall_mem_cons.mpr ⟨hs.net _ hm, hs.net⟩,
      hs.left.imp id (.imp_left Multiset.mem_cons_of_mem),
      hs.right.imp id (.imp_left Multiset.mem_cons_of_mem)⟩

end Swap

section Agreement
variable {all : Finset ι} {last : Option V}

theorem Current.step (hs : Current all last s) (h : Guarded (Serial all) Step s e t) :
    Current all (e.latest last) t := by
  obtain ⟨hserial, hstep⟩ := h
  cases hstep with
  | set => cases hserial
  | @write x w =>
    obtain ⟨hpending, hnet⟩ := hserial
    refine ⟨fun m hm => ?_, fun m hm => absurd (hnet ▸ hm) (Multiset.notMem_zero m),
      fun v hv y hy => ?_⟩
    · rw [hpending] at hm
      rw [Multiset.mem_singleton.mp hm]
      rfl
    · obtain rfl := Option.some.inj hv
      by_cases hyx : y = x
      · rw [hyx]
        exact .inl (Function.update_self _ _ _)
      · exact .inr (.inr ⟨x, Ne.symm hyx, Multiset.mem_cons_self _ _⟩)
  | @send x w targets hm =>
    refine ⟨fun m hm' => hs.pending m (Multiset.mem_of_mem_erase hm'), fun m hm' => ?_,
      fun v hv y hy => ?_⟩
    · cases Multiset.mem_add.mp hm' with
      | inl hm' => exact hs.net m hm'
      | inr hm' =>
        obtain ⟨y, -, rfl⟩ := Multiset.mem_map.mp hm'
        exact hs.pending (x, w) hm
    · obtain rfl : w = v := Option.some.inj ((hs.pending _ hm).symm.trans hv)
      obtain hcopy | hm' | ⟨z, hz, hm'⟩ := hs.copy w hv y hy
      · exact .inl hcopy
      · exact .inr (.inl (Multiset.mem_add.mpr (.inl hm')))
      · by_cases hyx : y = x
        · refine .inr (.inr ⟨z, hz, (Multiset.mem_erase_of_ne fun heq => ?_).mpr hm'⟩)
          exact hz ((congrArg Prod.fst heq).trans hyx.symm)
        · exact .inr (.inl (Multiset.mem_add.mpr (.inr (Multiset.mem_map_of_mem _
            (hserial y hy hyx)))))
  | @deliver y w hm =>
    refine ⟨hs.pending, fun m hm' => hs.net m (Multiset.mem_of_mem_erase hm'), fun v hv x hx => ?_⟩
    obtain rfl : w = v := Option.some.inj ((hs.net _ hm).symm.trans hv)
    by_cases hxy : x = y
    · rw [hxy]
      exact .inl (Function.update_self _ _ _)
    · refine (hs.copy w hv x hx).imp ?_ (.imp ?_ id)
      · exact (Function.update_of_ne hxy _ _).trans
      · exact (Multiset.mem_erase_of_ne fun heq => hxy (congrArg Prod.fst heq)).mpr
  | duplicate hm =>
    refine ⟨hs.pending, Multiset.forall_mem_cons.mpr ⟨hs.net _ hm, hs.net⟩, fun v hv x hx => ?_⟩
    exact (hs.copy v hv x hx).imp id (.imp Multiset.mem_cons_of_mem id)
  | lose _ => cases hserial

end Agreement

end

/- What is under way, seen through a function that leaves some of it out. -/
section View
variable {α β : Type*} [DecidableEq α] {f : α → Option β} {all : Multiset α}
  {a : α} {b : β}

theorem filterMap_erase_some [DecidableEq β] (ha : a ∈ all) (hf : f a = some b) :
    (all.erase a).filterMap f = (all.filterMap f).erase b := by
  have hcons : all.filterMap f = b ::ₘ (all.erase a).filterMap f := by
    rw [← Multiset.filterMap_cons_some _ _ _ hf, Multiset.cons_erase ha]
  rw [hcons, Multiset.erase_cons_head]

theorem filterMap_erase_none (ha : a ∈ all) (hf : f a = none) :
    (all.erase a).filterMap f = all.filterMap f := by
  rw [← Multiset.filterMap_cons_none _ _ hf, Multiset.cons_erase ha]

end View

end HeadEnd.Broadcast
