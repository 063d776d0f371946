import Mathlib.Data.List.DropRight

/-! Lists kept as one text, with a separator between the entries and perhaps blanks around
them. -/
namespace HeadEnd.Text

/-- The characters with the Unicode property White_Space. -/
def isWhite (ch : Char) : Bool :=
  let n := ch.toNat
  (9 ≤ n && n ≤ 13) || n == 0x20 || n == 0x85 || n == 0xa0 || n == 0x1680 ||
    (0x2000 ≤ n && n ≤ 0x200a) || n == 0x2028 || n == 0x2029 || n == 0x202f || n == 0x205f ||
    n == 0x3000

def trim (s : String) : String :=
  String.ofList ((s.toList.dropWhile isWhite).rdropWhile isWhite)

/-- The pieces between separators, one more than there are separators. -/
def split (sep : Char) (s : String) : List String := (s.toList.splitOn sep).map String.ofList

/-- The entries of a list. The empty text is the empty list. -/
def fields (sep : Char) (s : String) : List String :=
  if s.isEmpty then [] else (split sep s).map trim

/-- The pieces between blanks, without the empty ones. -/
def words (s : String) : List String :=
  ((s.toList.splitOnP isWhite).filter fun piece => !piece.isEmpty).map String.ofList

/-- What can stand in a list and be found there again. -/
structure Field (sep : Char) (s : String) : Prop where
  nonempty : s ≠ ""
  unsplit : sep ∉ s.toList
  trimmed : trim s = s

theorem isWhite_of_isDigit {ch : Char} (h : ch.isDigit) : isWhite ch = false := by
  have hlow : 48 ≤ ch.toNat ∧ ch.toNat ≤ 57 := by
    simpa [Char.isDigit, UInt32.le_iff_toNat_le] using h
  simp only [isWhite, Bool.or_eq_false_iff, Bool.and_eq_false_iff, decide_eq_false_iff_not,
    beq_eq_false_iff_ne]
  omega

section
variable {sep : Char} {s t : String} {xs : List String}

theorem trim_of_forall_not_white (h : ∀ ch ∈ s.toList, isWhite ch = false) : trim s = s := by
  have hfront : s.toList.dropWhile isWhite = s.toList := by
    rw [List.dropWhile_eq_self_iff]
    intro hlen
    simp [h _ (List.getElem_mem hlen)]
  have hback : s.toList.rdropWhile isWhite = s.toList := by
    rw [List.rdropWhile_eq_self_iff]
    intro hne
    simp [h _ (List.getLast_mem hne)]
  rw [trim, hfront, hback, String.ofList_toList]

theorem trim_of_ends {first last : Char} {rest init : List Char} (hfirst : s.toList = first :: rest)
    (hlast : s.toList = init ++ [last]) (hf : isWhite first = false) (hl : isWhite last = false) :
    trim s = s := by
  have hfront : s.toList.dropWhile isWhite = s.toList := by
    rw [hfirst, List.dropWhile_cons_of_neg (by simp [hf])]
  have hback : s.toList.rdropWhile isWhite = s.toList := by
    rw [hlast, List.rdropWhile_concat_neg _ _ _ (by simp [hl])]
  rw [trim, hfront, hback, String.ofList_toList]

theorem split_of_notMem (h : sep ∉ s.toList) : split sep s = [s] := by
  simp [split, List.splitOn_eq_singleton h]

theorem split_append (s t : String) :
    split sep (s ++ String.singleton sep ++ t) = split sep s ++ split sep t := by
  simp [split, List.splitOn_append_cons_self]

theorem split_intercalate (hne : xs ≠ []) (h : ∀ x ∈ xs, sep ∉ x.toList) :
    split sep (String.intercalate (String.singleton sep) xs) = xs := by
  have hpieces : (([sep] : List Char).intercalate (xs.map String.toList)).splitOn sep =
      xs.map String.toList := by
    refine List.splitOn_intercalate sep ?_ (by simpa using hne)
    simpa using h
  simp [split, String.toList_intercalate, hpieces, Function.comp_def]

theorem map_trim_of_forall_field (h : ∀ x ∈ xs, Field sep x) : xs.map trim = xs := by
  rw [List.map_congr_left fun x hx => (h x hx).trimmed, List.map_id']

theorem fields_intercalate (h : ∀ x ∈ xs, Field sep x) :
    fields sep (String.intercalate (String.singleton sep) xs) = xs := by
  cases xs with
  | nil => rfl
  | cons x xs =>
    have hne : String.intercalate (String.singleton sep) (x :: xs) ≠ "" := by
      intro hempty
      have hx := (h x List.mem_cons_self).nonempty
      cases xs with
      | nil => exact hx (by simpa using hempty)
      | cons y ys =>
        rw [String.intercalate_cons_cons] at hempty
        simp at hempty
    have hsplit := split_intercalate (by simp) fun y hy => (h y hy).unsplit
    rw [fields, if_neg (by simpa using hne), hsplit, map_trim_of_forall_field h]

/-- An entry is put behind a list that is not empty. -/
theorem fields_append (hs : s ≠ "") (ht : Field sep t) :
    fields sep (s ++ String.singleton sep ++ t) = fields sep s ++ [t] := by
  rw [fields, if_neg (by simp), fields, if_neg (by simpa using hs), split_append,
    split_of_notMem ht.unsplit, List.map_append, List.map_singleton, ht.trimmed]

theorem fields_singleton (h : Field sep s) : fields sep s = [s] := by
  rw [fields, if_neg (by simpa using h.nonempty), split_of_notMem h.unsplit, List.map_singleton,
    h.trimmed]

end

theorem words_of_forall_not_white {s : String} (h : ∀ ch ∈ s.toList, isWhite ch = false)
    (hne : s ≠ "") : words s = [s] := by
  have hpiece : s.toList.isEmpty = false := by
    rw [List.isEmpty_eq_false_iff]
    exact fun hnil => hne (String.toList_inj.mp hnil)
  rw [words, List.splitOnP_eq_singleton h, List.filter_cons_of_pos (by rw [hpiece]; rfl),
    List.filter_nil, List.map_singleton, String.ofList_toList]

theorem words_append_singleton {ch : Char} (h : isWhite ch = true) (s t : String) :
    words (s ++ String.singleton ch ++ t) = words s ++ words t := by
  have hlist : (s ++ String.singleton ch ++ t).toList = s.toList ++ ch :: t.toList := by simp
  rw [words, hlist, List.splitOnP_append_cons _ _ h, List.filter_append, List.map_append]
  rfl

/-- Words with a blank between them. -/
theorem words_intercalate {ch : Char} (hch : isWhite ch = true) {xs : List String}
    (h : ∀ x ∈ xs, x ≠ "" ∧ ∀ ch ∈ x.toList, isWhite ch = false) :
    words (String.intercalate (String.singleton ch) xs) = xs := by
  induction xs with
  | nil => rfl
  | cons x xs ih =>
    have hx := h x List.mem_cons_self
    have hword := words_of_forall_not_white hx.2 hx.1
    cases xs with
    | nil => simpa using hword
    | cons y ys =>
      rw [String.intercalate_cons_cons, words_append_singleton hch, hword,
        ih fun z hz => h z (List.mem_cons_of_mem _ hz)]
      rfl

/-- A blank behind a text is dropped. -/
theorem trim_append_singleton {s : String} {ch : Char} (h : isWhite ch = true)
    (hne : trim s ≠ "") : trim (s ++ String.singleton ch) = trim s := by
  have hsome : (s.toList.dropWhile isWhite).isEmpty = false := by
    rw [List.isEmpty_eq_false_iff]
    intro hnil
    rw [trim, hnil] at hne
    exact hne rfl
  have hfront : (s.toList ++ [ch]).dropWhile isWhite = s.toList.dropWhile isWhite ++ [ch] := by
    rw [List.dropWhile_append, hsome]
    rfl
  rw [trim, String.toList_append, String.toList_singleton, hfront,
    List.rdropWhile_concat_pos _ _ _ h, trim]

end HeadEnd.Text
