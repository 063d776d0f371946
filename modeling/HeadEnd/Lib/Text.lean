import Mathlib.Data.List.Infix
import Mathlib.Data.Nat.ModEq

/-! Texts as lists of characters: templates whose placeholders `${NAME}` are to be filled
in, and numbers in positional notation. -/
namespace HeadEnd.Text

/-- The text `${NAME}`. -/
def placeholder (name : List Char) : List Char := '$' :: '{' :: (name ++ ['}'])

/-- The expression `\$\{([^}]+)\}` matches somewhere. -/
def HasPlaceholder (s : List Char) : Prop :=
  ∃ name, name ≠ [] ∧ '}' ∉ name ∧ placeholder name <:+: s

/-- Strings one below the other. -/
def linesOf (strings : List String) : List Char := strings.flatMap fun s => s.toList ++ ['\n']

/-- Where a left-to-right search for a match stands. -/
inductive Scan where
  | text
  | dollar
  | opened
  | inside (name : List Char)

/-- The names in all matches, in order. A match begins at the first `${` that can begin one,
ends at the first `}`, and the search goes on behind it. -/
def captures : Scan → List Char → List (List Char)
  | _, [] => []
  | .text, ch :: rest => captures (if ch = '$' then .dollar else .text) rest
  | .dollar, ch :: rest =>
    captures (if ch = '{' then .opened else if ch = '$' then .dollar else .text) rest
  | .opened, ch :: rest => captures (if ch = '}' then .text else .inside [ch]) rest
  | .inside name, ch :: rest =>
    if ch = '}' then name :: captures .text rest else captures (.inside (name ++ [ch])) rest

/-- Every occurrence replaced, from left to right and without overlaps; `skip` characters
still belong to the last one. -/
def replaceAll (pattern replacement : List Char) (skip : Nat) : List Char → List Char
  | [] => []
  | ch :: rest =>
    match skip with
    | k + 1 => replaceAll pattern replacement k rest
    | 0 =>
      if pattern.isPrefixOf (ch :: rest) then
        replacement ++ replaceAll pattern replacement (pattern.length - 1) rest
      else ch :: replaceAll pattern replacement 0 rest

/-- What the search has read of a match that may have begun. -/
def Scan.pending : Scan → List Char
  | .text => []
  | .dollar => ['$']
  | .opened => ['$', '{']
  | .inside name => '$' :: '{' :: name

def Scan.Proper : Scan → Prop
  | .inside name => name ≠ [] ∧ '}' ∉ name
  | _ => True

section
variable {s t name : List Char} {ch : Char}

theorem closed_mem_of_hasPlaceholder (h : HasPlaceholder s) : '}' ∈ s := by
  obtain ⟨name, -, -, hin⟩ := h
  exact hin.subset (by simp [placeholder])

theorem not_hasPlaceholder_of_notMem (h : '}' ∉ s) : ¬ HasPlaceholder s :=
  fun hs => h (closed_mem_of_hasPlaceholder hs)

theorem HasPlaceholder.mono (h : HasPlaceholder s) (hst : s <:+: t) : HasPlaceholder t := by
  obtain ⟨name, hne, hclosed, hin⟩ := h
  exact ⟨name, hne, hclosed, hin.trans hst⟩

theorem hasPlaceholder_of_closed (hne : name ≠ []) (hclosed : '}' ∉ name) :
    HasPlaceholder ('$' :: '{' :: (name ++ '}' :: t)) := by
  refine ⟨name, hne, hclosed, [], t, ?_⟩
  simp [placeholder]

/-- A character no match begins with. -/
theorem hasPlaceholder_cons_iff
    (h : ∀ name, name ≠ [] → '}' ∉ name → ¬ placeholder name <+: ch :: s) :
    HasPlaceholder (ch :: s) ↔ HasPlaceholder s := by
  constructor
  · intro hs
    obtain ⟨name, hne, hclosed, hin⟩ := hs
    cases List.infix_cons_iff.mp hin with
    | inl hpre => exact absurd hpre (h name hne hclosed)
    | inr hrest => exact ⟨name, hne, hclosed, hrest⟩
  · exact fun hs => hs.mono (List.suffix_cons ch s).isInfix

theorem hasPlaceholder_cons_of_ne (h : ch ≠ '$') :
    HasPlaceholder (ch :: s) ↔ HasPlaceholder s := by
  refine hasPlaceholder_cons_iff fun name _ _ hpre => h ?_
  exact (List.cons_prefix_cons.mp hpre).1.symm

theorem hasPlaceholder_dollar_cons_of_ne (h : ch ≠ '{') :
    HasPlaceholder ('$' :: ch :: s) ↔ HasPlaceholder (ch :: s) := by
  refine hasPlaceholder_cons_iff fun name _ _ hpre => h ?_
  have hrest := (List.cons_prefix_cons.mp hpre).2
  exact (List.cons_prefix_cons.mp hrest).1.symm

/-- There is no match at `${}`, and none begins inside it. -/
theorem hasPlaceholder_empty_name :
    HasPlaceholder ('$' :: '{' :: '}' :: s) ↔ HasPlaceholder s := by
  have hopen : HasPlaceholder ('$' :: '{' :: '}' :: s) ↔ HasPlaceholder ('{' :: '}' :: s) := by
    refine hasPlaceholder_cons_iff fun name hne hclosed hpre => ?_
    have hname := (List.cons_prefix_cons.mp (List.cons_prefix_cons.mp hpre).2).2
    cases name with
    | nil => exact hne rfl
    | cons first name =>
      have hfirst : first = '}' := (List.cons_prefix_cons.mp hname).1
      simp [hfirst] at hclosed
  rw [hopen, hasPlaceholder_cons_of_ne (by decide), hasPlaceholder_cons_of_ne (by decide)]

/-- The search finds something exactly if there is a match, wherever it stands. -/
theorem captures_ne_nil_iff (q : Scan) (hq : q.Proper) :
    captures q s ≠ [] ↔ HasPlaceholder (q.pending ++ s) := by
  induction s generalizing q with
  | nil =>
    refine iff_of_false (by simp [captures]) (not_hasPlaceholder_of_notMem ?_)
    cases q with
    | text => simp [Scan.pending]
    | dollar => simp [Scan.pending]
    | opened => simp [Scan.pending]
    | inside name => simpa [Scan.pending] using hq.2
  | cons ch rest ih =>
    cases q with
    | text =>
      by_cases hch : ch = '$'
      · rw [captures, if_pos hch, ih .dollar trivial, hch]
        rfl
      · rw [captures, if_neg hch, ih .text trivial]
        exact (hasPlaceholder_cons_of_ne hch).symm
    | dollar =>
      by_cases hopen : ch = '{'
      · rw [captures, if_pos hopen, ih .opened trivial, hopen]
        rfl
      · have hskip := hasPlaceholder_dollar_cons_of_ne (s := rest) hopen
        rw [captures, if_neg hopen]
        by_cases hch : ch = '$'
        · rw [if_pos hch, ih .dollar trivial]
          rw [hch] at hskip ⊢
          exact hskip.symm
        · rw [if_neg hch, ih .text trivial]
          exact (hskip.trans (hasPlaceholder_cons_of_ne hch)).symm
    | opened =>
      by_cases hch : ch = '}'
      · rw [captures, if_pos hch, ih .text trivial, hch]
        exact hasPlaceholder_empty_name.symm
      · rw [captures, if_neg hch, ih (.inside [ch]) ⟨by simp, by simpa using Ne.symm hch⟩]
        rfl
    | inside name =>
      by_cases hch : ch = '}'
      · rw [captures, if_pos hch, hch]
        exact iff_of_true (by simp) (hasPlaceholder_of_closed hq.1 hq.2)
      · have hname : (Scan.inside (name ++ [ch])).Proper :=
          ⟨by simp, by simpa using ⟨hq.2, Ne.symm hch⟩⟩
        rw [captures, if_neg hch, ih _ hname]
        simp [Scan.pending]

theorem captures_eq_nil_iff : captures .text s = [] ↔ ¬ HasPlaceholder s := by
  have h := captures_ne_nil_iff (s := s) .text trivial
  exact not_iff_not.mp (h.trans (not_not (a := HasPlaceholder s)).symm)

instance : DecidablePred HasPlaceholder :=
  fun s => decidable_of_iff (captures .text s ≠ []) (captures_ne_nil_iff .text trivial)

/-- The characters that make a placeholder. -/
def isMark (ch : Char) : Bool := ch = '$' || ch = '{' || ch = '}'

/-- The same marks, with other text between the same ones. -/
inductive Alike : List Char → List Char → Prop
  | nil : Alike [] []
  | same (ch : Char) {s t : List Char} : Alike s t → Alike (ch :: s) (ch :: t)
  | plain {xs ys s t : List Char} : xs ≠ [] → ys ≠ [] → (∀ ch ∈ xs, isMark ch = false) →
      (∀ ch ∈ ys, isMark ch = false) → Alike s t → Alike (xs ++ s) (ys ++ t)

/-- Two searches at the same stage, whatever they have read of a name. -/
inductive Scan.Like : Scan → Scan → Prop
  | text : Like .text .text
  | dollar : Like .dollar .dollar
  | opened : Like .opened .opened
  | inside (m n : List Char) : Like (.inside m) (.inside n)

/-- The stage behind some text without marks. -/
def Scan.settled : Scan → Scan
  | .text | .dollar => .text
  | .opened => .inside []
  | .inside name => .inside name

theorem Scan.Like.trans {p q r : Scan} (hpq : p.Like q) (hqr : q.Like r) : p.Like r := by
  cases hpq <;> cases hqr <;> constructor

theorem Scan.Like.symm {p q : Scan} (h : p.Like q) : q.Like p := by
  cases h <;> constructor

theorem Scan.Like.settled {p q : Scan} (h : p.Like q) : p.settled.Like q.settled := by
  cases h <;> constructor

theorem captures_cons_plain {ch : Char} (h : isMark ch = false) (q : Scan) (s : List Char) :
    ∃ r, r.Like q.settled ∧ r.settled.Like q.settled ∧ captures q (ch :: s) = captures r s := by
  simp only [isMark, Bool.or_eq_false_iff, decide_eq_false_iff_not] at h
  obtain ⟨⟨hdollar, hopen⟩, hclose⟩ := h
  cases q with
  | text => exact ⟨.text, .text, .text, by rw [captures, if_neg hdollar]⟩
  | dollar => exact ⟨.text, .text, .text, by rw [captures, if_neg hopen, if_neg hdollar]⟩
  | opened => exact ⟨.inside [ch], .inside _ _, .inside _ _, by rw [captures, if_neg hclose]⟩
  | inside name =>
    exact ⟨.inside (name ++ [ch]), .inside _ _, .inside _ _, by rw [captures, if_neg hclose]⟩

theorem captures_plain {xs : List Char} (hne : xs ≠ []) (h : ∀ ch ∈ xs, isMark ch = false)
    (q : Scan) (s : List Char) :
    ∃ r, r.Like q.settled ∧ captures q (xs ++ s) = captures r s := by
  induction xs generalizing q with
  | nil => exact absurd rfl hne
  | cons ch xs ih =>
    obtain ⟨hch, hxs⟩ := List.forall_mem_cons.mp h
    obtain ⟨p, hp, hsettled, heq⟩ := captures_cons_plain hch q (xs ++ s)
    cases xs with
    | nil => exact ⟨p, hp, heq⟩
    | cons next xs =>
      obtain ⟨r, hr, hrest⟩ := ih (List.cons_ne_nil _ _) hxs p
      exact ⟨r, hr.trans hsettled, heq.trans hrest⟩

/-- Only the marks count, and whether there is anything between them. -/
theorem Alike.captures_iff (h : Alike s t) {q r : Scan} (hqr : q.Like r) :
    captures q s ≠ [] ↔ captures r t ≠ [] := by
  induction h generalizing q r with
  | nil => simp [captures]
  | @same ch s t _ ih =>
    cases hqr with
    | text =>
      rw [captures, captures]
      split_ifs
      · exact ih .dollar
      · exact ih .text
    | dollar =>
      rw [captures, captures]
      split_ifs
      · exact ih .opened
      · exact ih .dollar
      · exact ih .text
    | opened =>
      rw [captures, captures]
      split_ifs
      · exact ih .text
      · exact ih (.inside _ _)
    | inside m n =>
      rw [captures, captures]
      split_ifs
      · simp
      · exact ih (.inside _ _)
  | plain hxs hys hx hy _ ih =>
    obtain ⟨q', hq', hs⟩ := captures_plain hxs hx q _
    obtain ⟨r', hr', ht⟩ := captures_plain hys hy r _
    rw [hs, ht]
    exact ih (hq'.trans (hqr.settled.trans hr'.symm))

theorem Alike.hasPlaceholder_iff (h : Alike s t) : HasPlaceholder s ↔ HasPlaceholder t := by
  have hscan := h.captures_iff .text
  rwa [captures_ne_nil_iff .text trivial, captures_ne_nil_iff .text trivial] at hscan

end

section
variable {b : Nat}

/-- The number with these digits, the most significant one first. -/
def ofDigits (b : Nat) (digits : List Nat) : Nat := digits.foldl (fun n d => b * n + d) 0

/-- Its last `k` digits determine a number below `b ^ k`. -/
theorem ofDigits_range (k n : Nat) :
    ofDigits b ((List.range k).map fun i => n / b ^ (k - 1 - i) % b) = n % b ^ k := by
  induction k generalizing n with
  | zero => simp [ofDigits, Nat.mod_one]
  | succ k ih =>
    have hshift : (List.range k).map (fun i => n / b ^ (k + 1 - 1 - i) % b) =
        (List.range k).map fun i => n / b / b ^ (k - 1 - i) % b := by
      refine List.map_congr_left fun i hi => ?_
      have hexp : k + 1 - 1 - i = (k - 1 - i) + 1 := by
        have hlt := List.mem_range.mp hi
        omega
      rw [hexp, Nat.pow_succ', Nat.div_div_eq_div_mul]
    have hlast := ih (n / b)
    rw [ofDigits] at hlast
    rw [List.range_succ, List.map_append, ofDigits, List.foldl_append, hshift, hlast]
    rw [Nat.pow_succ', Nat.mod_mul]
    simp [Nat.add_comm]

/-- The value of a hexadecimal digit. -/
def hexValue (ch : Char) : Option Nat :=
  if '0' ≤ ch ∧ ch ≤ '9' then some (ch.toNat - 48)
  else if 'a' ≤ ch ∧ ch ≤ 'f' then some (ch.toNat - 87)
  else if 'A' ≤ ch ∧ ch ≤ 'F' then some (ch.toNat - 55)
  else none

theorem hexValue_digitChar {n : Nat} (h : n < 16) : hexValue (Nat.digitChar n) = some n := by
  have hall : ∀ n < 16, hexValue (Nat.digitChar n) = some n := by decide
  exact hall n h

theorem ofDigits_append_singleton (digits : List Nat) (d : Nat) :
    ofDigits b (digits ++ [d]) = b * ofDigits b digits + d := by
  simp [ofDigits]

/-- What is printed in hexadecimal is read back. -/
theorem exists_mapM_hexValue (n : Nat) :
    ∃ values, (Nat.toDigits 16 n).mapM hexValue = some values ∧ ofDigits 16 values = n := by
  induction n using Nat.strong_induction_on with
  | _ n ih =>
    rw [Nat.toDigits_eq_if (by decide)]
    split
    next hlt =>
      refine ⟨[n], ?_, by simp [ofDigits]⟩
      rw [List.mapM_cons, hexValue_digitChar hlt]
      rfl
    next hge =>
      obtain ⟨values, hvalues, hn⟩ := ih (n / 16) (by omega)
      have hlast : n % 16 < 16 := Nat.mod_lt _ (by decide)
      refine ⟨values ++ [n % 16], ?_, ?_⟩
      · simp [List.mapM_append, hvalues, hexValue_digitChar hlast]
      · rw [ofDigits_append_singleton, hn]
        omega

/-- What is printed in decimal is read back. -/
theorem ofDigits_toDigits (n : Nat) :
    ofDigits 10 ((Nat.toDigits 10 n).map fun ch => ch.toNat - 48) = n := by
  rw [ofDigits, List.foldl_map]
  exact Nat.ofDigitChars_toDigits (by decide) (by decide)

theorem head_toDigits {n : Nat} (h : n ≠ 0) : (Nat.toDigits 10 n).head? ≠ some '0' := by
  induction n using Nat.strong_induction_on with
  | _ n ih =>
    rw [Nat.toDigits_eq_if (by decide)]
    split
    next hlt => simpa using h
    next hge =>
      rw [List.head?_append_of_ne_nil _ Nat.toDigits_ne_nil]
      exact ih (n / 10) (by omega) (by omega)

end

end HeadEnd.Text
