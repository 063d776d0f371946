import Mathlib.Data.Finmap

/-! How many entries of a finite map have a property, and how a change to one entry moves
that number. -/
namespace HeadEnd.Tally
variable {α β : Type*} [DecidableEq α] {m m' : Finmap fun _ : α => β} {p : β → Bool} {k : α}

/-- The keys whose values have the property. -/
def marked (m : Finmap fun _ : α => β) (p : β → Bool) : Finset α :=
  m.keys.filter fun k => (m.lookup k).any p

def tally (m : Finmap fun _ : α => β) (p : β → Bool) : Nat := (marked m p).card

/-- What the entry of one key adds to the tally. -/
def weight (p : β → Bool) (v : Option β) : Nat := if v.any p then 1 else 0

theorem mem_marked : k ∈ marked m p ↔ (m.lookup k).any p = true := by
  rw [marked, Finset.mem_filter, Finmap.mem_keys, Finmap.mem_iff, Option.any_eq_true]
  constructor
  · exact fun h => h.2
  · intro h
    obtain ⟨v, hv, hp⟩ := h
    exact ⟨⟨v, hv⟩, v, hv, hp⟩

theorem card_erase_add_weight :
    ((marked m p).erase k).card + weight p (m.lookup k) = tally m p := by
  unfold weight tally
  by_cases hk : (m.lookup k).any p = true
  · rw [if_pos hk]
    exact Finset.card_erase_add_one (mem_marked.mpr hk)
  · rw [if_neg hk, Finset.erase_eq_of_notMem fun hmem => hk (mem_marked.mp hmem), Nat.add_zero]

/-- A change to the entry of `k` alone moves the tally by that entry's weight. -/
theorem tally_add_weight (h : ∀ j, j ≠ k → m'.lookup j = m.lookup j) :
    tally m' p + weight p (m.lookup k) = tally m p + weight p (m'.lookup k) := by
  have hrest : (marked m' p).erase k = (marked m p).erase k := by
    ext j
    rw [Finset.mem_erase, Finset.mem_erase, mem_marked, mem_marked]
    refine and_congr_right fun hj => ?_
    rw [h j hj]
  rw [← card_erase_add_weight (k := k), ← card_erase_add_weight (m := m) (k := k), hrest]
  omega

theorem tally_congr (h : ∀ j, m'.lookup j = m.lookup j) : tally m' p = tally m p := by
  rw [Finmap.ext_lookup h]

end HeadEnd.Tally
