import Mathlib.Data.Int.CardIntervalMod
import Mathlib.Data.List.Sort
import Mathlib.Logic.Function.Basic

/-! Counts that differ by one at most, and the two ways to keep them so: always to
add where there is least, or to go round in turn, those with least first. -/
namespace HeadEnd.Balance

variable {ι : Type*} {s : Set ι} {count : ι → Nat} {i : ι}

def Balanced (s : Set ι) (count : ι → Nat) : Prop :=
  ∀ i ∈ s, ∀ j ∈ s, count i ≤ count j + 1

theorem balanced_const (n : Nat) : Balanced s (fun _ => n) :=
  fun _ _ _ _ => Nat.le_succ n

theorem Balanced.congr {other : ι → Nat} (h : Balanced s count) (heq : ∀ i ∈ s, other i = count i) :
    Balanced s other := by
  intro i hi j hj
  rw [heq i hi, heq j hj]
  exact h i hi j hj

/-- One more where no count is smaller. -/
theorem Balanced.add_least [DecidableEq ι] (h : Balanced s count)
    (hleast : ∀ j ∈ s, count i ≤ count j) :
    Balanced s (fun j => count j + if j = i then 1 else 0) := by
  intro j hj k hk
  have hjk := h j hj k hk
  have hik := hleast k hk
  dsimp only
  by_cases hji : j = i
  · rw [if_pos hji, hji]
    omega
  · rw [if_neg hji]
    omega

theorem pairwise_insertionSort_count (count : ι → Nat) (l : List ι) :
    (l.insertionSort fun a b => count a ≤ count b).Pairwise (fun a b => count a ≤ count b) := by
  have htotal : Std.Total (fun a b : ι => count a ≤ count b) :=
    ⟨fun a b => Nat.le_total (count a) (count b)⟩
  have htrans : IsTrans ι (fun a b => count a ≤ count b) := ⟨fun _ _ _ => Nat.le_trans⟩
  exact List.pairwise_insertionSort _ _

/-- How many of the first `k` turns fall on place `j` of `n`. -/
def turns (n k j : Nat) : Nat := (List.range k).countP fun i => i % n = j

theorem count_eq_countP_range (p : Nat → Prop) [DecidablePred p] (k : Nat) :
    k.count p = (List.range k).countP fun i => p i := by
  induction k with
  | zero => rfl
  | succ k ih => simp [Nat.count_succ, List.range_succ, List.countP_singleton, ih]

theorem turns_eq {n k j : Nat} (hj : j < n) :
    turns n k j = k / n + if j < k % n then 1 else 0 := by
  have hcount := Nat.count_modEq_card k (Nat.zero_lt_of_lt hj) j
  rw [count_eq_countP_range, Nat.mod_eq_of_lt hj] at hcount
  rw [← hcount]
  refine List.countP_congr fun i _ => ?_
  simp [Nat.ModEq, Nat.mod_eq_of_lt hj]

theorem balanced_turns (n k : Nat) : Balanced (Set.Iio n) (turns n k) := by
  intro i hi j hj
  rw [turns_eq hi, turns_eq hj]
  split <;> split <;> omega

/-- Nobody has more turns than one whose place comes earlier. -/
theorem turns_le_of_le {n k i j : Nat} (hij : i ≤ j) (hj : j < n) : turns n k j ≤ turns n k i := by
  rw [turns_eq hj, turns_eq (Nat.lt_of_le_of_lt hij hj)]
  split <;> split <;> omega

end HeadEnd.Balance
