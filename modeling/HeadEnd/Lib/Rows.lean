import Mathlib.Data.Multiset.Filter
import Mathlib.Data.Multiset.MapFold

/-! A table without a key: a bag of rows, and the statements that change every row
of it that meets a condition. -/
namespace HeadEnd.Rows

variable {α : Type*} (p : α → Prop) [DecidablePred p]

/-- `UPDATE … SET f WHERE p` -/
def updateWhere (f : α → α) (rows : Multiset α) : Multiset α :=
  rows.map fun row => if p row then f row else row

/-- `DELETE … WHERE p` -/
def deleteWhere (rows : Multiset α) : Multiset α := rows.filter fun row => ¬ p row

variable {p} {f : α → α} {rows : Multiset α} {row : α}

theorem mem_updateWhere :
    row ∈ updateWhere p f rows ↔ (row ∈ rows ∧ ¬ p row) ∨ ∃ old ∈ rows, p old ∧ f old = row := by
  rw [updateWhere, Multiset.mem_map]
  constructor
  · intro h
    obtain ⟨old, hold, heq⟩ := h
    by_cases hp : p old
    · rw [if_pos hp] at heq
      exact .inr ⟨old, hold, hp, heq⟩
    · rw [if_neg hp] at heq
      subst heq
      exact .inl ⟨hold, hp⟩
  · intro h
    cases h with
    | inl hkept => exact ⟨row, hkept.1, if_neg hkept.2⟩
    | inr hset =>
      obtain ⟨old, hold, hp, heq⟩ := hset
      exact ⟨old, hold, by rw [if_pos hp, heq]⟩

theorem mem_deleteWhere : row ∈ deleteWhere p rows ↔ row ∈ rows ∧ ¬ p row := by
  rw [deleteWhere, Multiset.mem_filter]

end HeadEnd.Rows
