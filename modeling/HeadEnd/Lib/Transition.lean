import Mathlib.Data.List.Basic

/-! Labelled transition systems: runs, runs whose steps all meet a condition on
the state they leave, and the invariant rule. -/
namespace HeadEnd.Transition
variable {σ ε : Type*} {step : σ → ε → σ → Prop}

/-- `Run step s es t`: the labels `es`, taken one after another, lead from `s` to `t`. -/
inductive Run (step : σ → ε → σ → Prop) : σ → List ε → σ → Prop
  | nil (s : σ) : Run step s [] s
  | cons {s t u : σ} {e : ε} {es : List ε} : step s e t → Run step t es u → Run step s (e :: es) u

/-- The steps taken from states in which the condition holds of their label. -/
def Guarded (guard : σ → ε → Prop) (step : σ → ε → σ → Prop) : σ → ε → σ → Prop :=
  fun s e t => guard s e ∧ step s e t

theorem Run.single {s t : σ} {e : ε} (h : step s e t) : Run step s [e] t := .cons h (.nil t)

theorem Run.append {s t u : σ} {es fs : List ε} (h : Run step s es t) (k : Run step t fs u) :
    Run step s (es ++ fs) u := by
  induction h with
  | nil s => exact k
  | cons hstep hrest ih => exact .cons hstep (ih k)

theorem Run.split {s u : σ} {es fs : List ε} (h : Run step s (es ++ fs) u) :
    ∃ t, Run step s es t ∧ Run step t fs u := by
  induction es generalizing s with
  | nil => exact ⟨s, .nil s, h⟩
  | cons e es ih =>
    cases h with
    | cons hone hrest =>
      obtain ⟨t, hfirst, hlast⟩ := ih hrest
      exact ⟨t, .cons hone hfirst, hlast⟩

/-- If a label leads from a state to one state only, so does a list of labels. -/
theorem Run.det (hdet : ∀ s e t u, step s e t → step s e u → t = u) {s t u : σ} {es : List ε}
    (h : Run step s es t) (k : Run step s es u) : t = u := by
  induction h with
  | nil s =>
    cases k with
    | nil => rfl
  | cons hone hrest ih =>
    cases k with
    | cons hone' hrest' =>
      obtain rfl := hdet _ _ _ _ hone hone'
      exact ih hrest'

/-- What every step preserves, every run preserves. -/
theorem Run.invariant (inv : σ → Prop) (hstep : ∀ s e t, inv s → step s e t → inv t)
    {s t : σ} {es : List ε} (h : Run step s es t) (hs : inv s) : inv t := by
  induction h with
  | nil s => exact hs
  | cons hone hrest ih => exact ih (hstep _ _ _ hs hone)

theorem Run.of_guarded {guard : σ → ε → Prop} {s t : σ} {es : List ε}
    (h : Run (Guarded guard step) s es t) : Run step s es t := by
  induction h with
  | nil s => exact .nil s
  | cons hone hrest ih => exact .cons hone.2 ih

/-- A run passes through good states only exactly when all its steps meet the guard, if from
a good state a step leads to a good state exactly when the guard holds. What good states alone
preserve may be used on the way. -/
theorem Run.forall_good_iff_guarded_of_inv (inv : σ → Prop) {guard : σ → ε → Prop}
    {good : σ → Prop} (hdet : ∀ s e t u, step s e t → step s e u → t = u)
    (hinv : ∀ s e t, inv s → good s → step s e t → inv t)
    (hstep : ∀ s e t, inv s → good s → step s e t → (good t ↔ guard s e)) {s t : σ} {es : List ε}
    (h : Run step s es t) (hs : inv s) (hgood : good s) :
    (∀ es₁ es₂ u, es = es₁ ++ es₂ → Run step s es₁ u → good u) ↔
      Run (Guarded guard step) s es t := by
  induction h with
  | nil s =>
    refine ⟨fun _ => .nil s, fun _ es₁ es₂ u heq hrun => ?_⟩
    obtain ⟨rfl, -⟩ := List.append_eq_nil_iff.mp heq.symm
    cases hrun with
    | nil => exact hgood
  | @cons s t u e es hone hrest ih =>
    have ht : inv t := hinv s e t hs hgood hone
    constructor
    · intro hall
      have hnext : good t := hall [e] es t rfl (.single hone)
      refine .cons ⟨(hstep s e t hs hgood hone).mp hnext, hone⟩ ((ih ht hnext).mp ?_)
      exact fun es₁ es₂ v heq hrun => hall (e :: es₁) es₂ v (by rw [heq]; rfl) (.cons hone hrun)
    · intro hguarded es₁ es₂ v heq hrun
      cases hguarded with
      | @cons _ t' _ _ _ hg hrest' =>
        obtain rfl := hdet s e t t' hone hg.2
        have hnext : good t := (hstep s e t hs hgood hone).mpr hg.1
        cases hrun with
        | nil => exact hgood
        | @cons _ t' _ e' es₁ hone' hrun' =>
          obtain ⟨rfl, rfl⟩ := List.cons.inj heq
          obtain rfl := hdet s _ t t' hone hone'
          exact (ih ht hnext).mpr hrest' es₁ es₂ v rfl hrun'

/-- If a step from a good state leads to a good state exactly when the guard holds, then
a run passes through good states only exactly when all its steps meet the guard. -/
theorem Run.forall_good_iff_guarded {guard : σ → ε → Prop} {good : σ → Prop}
    (hdet : ∀ s e t u, step s e t → step s e u → t = u)
    (hstep : ∀ s e t, good s → step s e t → (good t ↔ guard s e)) {s t : σ} {es : List ε}
    (h : Run step s es t) (hs : good s) :
    (∀ es₁ es₂ u, es = es₁ ++ es₂ → Run step s es₁ u → good u) ↔
      Run (Guarded guard step) s es t :=
  h.forall_good_iff_guarded_of_inv (fun _ => True) hdet (fun _ _ _ _ _ _ => trivial)
    (fun s e t _ => hstep s e t) trivial hs

/-- Every step is a step of the view, or leaves the view as it is and makes a number smaller.
Then the steps come to an end if those of the view do. -/
theorem acc_of_view {τ : Type*} {next : σ → σ → Prop} {viewNext : τ → τ → Prop} (view : σ → τ)
    (size : σ → ℕ) (inv : σ → Prop)
    (hstep : ∀ s t, inv s → next s t →
      inv t ∧ (viewNext (view s) (view t) ∨ (view t = view s ∧ size t < size s)))
    {s : σ} (hs : inv s) (hacc : Acc (fun t s => viewNext s t) (view s)) :
    Acc (fun t s => next s t) s := by
  generalize hv : view s = v at hacc
  induction hacc generalizing s with
  | intro v _ ih =>
    generalize hn : size s = n
    induction n using Nat.strongRecOn generalizing s with
    | ind n ihn =>
      refine .intro s fun t ht => ?_
      obtain ⟨hinv, hview | ⟨hsame, hlt⟩⟩ := hstep s t hs ht
      · exact ih (view t) (hv ▸ hview) hinv rfl
      · exact ihn (size t) (hn ▸ hlt) hinv (hsame.trans hv) rfl

/-- Steps that come to an end can be taken until there is none. -/
theorem exists_last {next : σ → σ → Prop} (lasts : σ → σ → Prop) (hrefl : ∀ s, lasts s s)
    (hcons : ∀ s t u, next s t → lasts t u → lasts s u) {s : σ}
    (hacc : Acc (fun t s => next s t) s) : ∃ t, lasts s t ∧ ∀ u, ¬ next t u := by
  induction hacc with
  | intro s _ ih =>
    by_cases hnext : ∃ t, next s t
    · obtain ⟨t, ht⟩ := hnext
      obtain ⟨u, hu, hlast⟩ := ih t ht
      exact ⟨u, hcons s t u ht hu, hlast⟩
    · exact ⟨s, hrefl s, fun u hu => hnext ⟨u, hu⟩⟩

end HeadEnd.Transition
