import Mathlib.Data.List.MinMax
import Mathlib.Order.Basic

/-! The first place at which a function on `0, …, n - 1` is least, and two ways to look for
it: the minimum first and then its position, or one scan that keeps the best place so far. -/
namespace HeadEnd.FirstMin
variable {α : Type*} [LinearOrder α] {f : Nat → α} {n b c : Nat} {top : α}

structure IsFirstMin (f : Nat → α) (n b : Nat) : Prop where
  lt : b < n
  le : ∀ j < n, f b ≤ f j
  first : ∀ j < b, f b < f j

theorem IsFirstMin.unique (hb : IsFirstMin f n b) (hc : IsFirstMin f n c) : b = c := by
  have hbc : ¬ b < c := fun h => absurd (hc.first b h) (not_lt.mpr (hb.le c hc.lt))
  have hcb : ¬ c < b := fun h => absurd (hb.first c h) (not_lt.mpr (hc.le b hb.lt))
  omega

theorem IsFirstMin.congr {β : Type*} [LinearOrder β] {g : Nat → β} (h : IsFirstMin f n b)
    (hle : ∀ i j, g i ≤ g j ↔ f i ≤ f j) : IsFirstMin g n b := by
  refine ⟨h.lt, fun j hj => (hle b j).mpr (h.le j hj), fun j hj => ?_⟩
  rw [← not_le, hle, not_le]
  exact h.first j hj

/-- The position of the minimum, zero if there is nothing to choose from. -/
def positionOfMin (default : α) (values : List α) : Nat :=
  (values.findIdx? (· = values.min?.getD default)).getD 0

theorem isFirstMin_positionOfMin (default : α) (hn : 0 < n) :
    IsFirstMin f n (positionOfMin default ((List.range n).map f)) := by
  have hzero : f 0 ∈ (List.range n).map f := List.mem_map_of_mem (List.mem_range.mpr hn)
  obtain ⟨m, hm⟩ : ∃ m, ((List.range n).map f).min? = some m :=
    Option.isSome_iff_exists.mp (List.isSome_min?_of_mem hzero)
  obtain ⟨hmem, hle⟩ := List.min?_eq_some_iff.mp hm
  rw [positionOfMin, hm, Option.getD_some]
  cases hidx : ((List.range n).map f).findIdx? (· = m) with
  | none =>
    rw [List.findIdx?_eq_none_iff] at hidx
    exact absurd (hidx m hmem) (by simp)
  | some i =>
    obtain ⟨hi, hat, hbefore⟩ := List.findIdx?_eq_some_iff_getElem.mp hidx
    rw [List.length_map, List.length_range] at hi
    rw [List.getElem_map, List.getElem_range, decide_eq_true_eq] at hat
    have hleast : ∀ j < n, f i ≤ f j := fun j hj =>
      hat ▸ hle (f j) (List.mem_map_of_mem (List.mem_range.mpr hj))
    refine ⟨hi, hleast, fun j hj => lt_of_le_of_ne (hleast j (Nat.lt_trans hj hi)) fun heq => ?_⟩
    have hne := hbefore j hj
    rw [List.getElem_map, List.getElem_range, decide_eq_true_eq] at hne
    exact hne (heq.symm.trans hat)

/-- One round of the scan: a smaller value wins, and of equal values the lower place. -/
def scanStep (f : Nat → α) (best : α × Nat) (place : Nat) : α × Nat :=
  if f place < best.1 then (f place, place)
  else if f place = best.1 ∧ place < best.2 then (best.1, place)
  else best

/-- The best value and its place, from a value that none exceeds. -/
def scan (f : Nat → α) (top : α) (start n : Nat) : α × Nat :=
  (List.range n).foldl (scanStep f) (top, start)

theorem scan_succ (start : Nat) : scan f top start (n + 1) = scanStep f (scan f top start n) n := by
  rw [scan, List.range_succ, List.foldl_append]
  rfl

/-- After the first round the scan holds the first minimum of what it has seen. -/
theorem scan_spec {start : Nat} (hstart : 0 < start) (htop : f 0 ≤ top) (n : Nat) :
    (scan f top start (n + 1)).1 = f (scan f top start (n + 1)).2 ∧
      IsFirstMin f (n + 1) (scan f top start (n + 1)).2 := by
  induction n with
  | zero =>
    have hzero : scan f top start 1 = (f 0, 0) := by
      rw [scan_succ]
      change scanStep f (top, start) 0 = _
      by_cases hlt : f 0 < top
      · rw [scanStep, if_pos hlt]
      · have heq : f 0 = top := le_antisymm htop (not_lt.mp hlt)
        rw [scanStep, if_neg hlt, if_pos ⟨heq, hstart⟩, heq]
    rw [hzero]
    refine ⟨rfl, Nat.one_pos, fun j hj => ?_, fun j hj => absurd hj (Nat.not_lt_zero j)⟩
    rw [Nat.lt_one_iff.mp hj]
  | succ n ih =>
    obtain ⟨hval, hmin⟩ := ih
    rw [scan_succ]
    generalize scan f top start (n + 1) = best at hval hmin
    by_cases hlt : f (n + 1) < best.1
    · rw [scanStep, if_pos hlt]
      have hbelow : ∀ j < n + 1, f (n + 1) < f j := fun j hj =>
        lt_of_lt_of_le (hval ▸ hlt) (hmin.le j hj)
      refine ⟨rfl, Nat.lt_succ_self _, fun j hj => ?_, hbelow⟩
      cases Nat.lt_succ_iff_lt_or_eq.mp hj with
      | inl hold => exact (hbelow j hold).le
      | inr heq => rw [heq]
    · have hlow : ¬ (f (n + 1) = best.1 ∧ n + 1 < best.2) := fun h => by
        have hb := hmin.lt
        omega
      rw [scanStep, if_neg hlt, if_neg hlow]
      refine ⟨hval, Nat.lt_succ_of_lt hmin.lt, fun j hj => ?_, hmin.first⟩
      cases Nat.lt_succ_iff_lt_or_eq.mp hj with
      | inl hold => exact hmin.le j hold
      | inr heq => rw [heq, ← hval]; exact not_lt.mp hlt

theorem scan_fst {start : Nat} (hstart : 0 < start) (htop : f 0 ≤ top) (hn : 0 < n) :
    (scan f top start n).1 = f (scan f top start n).2 := by
  obtain ⟨k, rfl⟩ := Nat.exists_eq_succ_of_ne_zero hn.ne'
  exact (scan_spec hstart htop k).1

theorem isFirstMin_scan {start : Nat} (hstart : 0 < start) (htop : f 0 ≤ top) (hn : 0 < n) :
    IsFirstMin f n (scan f top start n).2 := by
  obtain ⟨k, rfl⟩ := Nat.exists_eq_succ_of_ne_zero hn.ne'
  exact (scan_spec hstart htop k).2

/-- If even the least value is the top, all are, and the first place is zero. -/
theorem IsFirstMin.eq_zero_of_top (h : IsFirstMin f n b) (htop : f 0 ≤ top) (heq : f b = top) :
    b = 0 := by
  by_contra hne
  exact absurd (h.first 0 (Nat.pos_of_ne_zero hne)) (not_lt.mpr (heq ▸ htop))

end HeadEnd.FirstMin
