import HeadEnd.Lib.Json

/-! Mappings in the block style of YAML: one key to a line, indented by its depth, with a
scalar behind it or a mapping below it. Strings stand in double quotes, with the escapes of
JSON. -/
namespace HeadEnd.Yaml
open Text

inductive Scalar where
  | str (s : String)
  | nat (n : Nat)
  | bool (b : Bool)
  deriving DecidableEq, Repr

/-- Letters, digits and underscores. -/
def isPlain (text : List Char) : Bool :=
  !text.isEmpty && text.all fun ch => ch.isAlphanum || ch == '_'

/-- A key that needs no quotes. -/
structure Key where
  text : String
  plain : isPlain text.toList = true
  deriving DecidableEq

/-- A mapping, entry by entry. -/
inductive Block where
  | nil
  | scalar (key : Key) (v : Scalar) (rest : Block)
  | nest (key : Key) (inner rest : Block)
  deriving DecidableEq

/-- What stands behind the colon: a scalar, `{}`, or nothing if the mapping is below. -/
inductive Content where
  | scalar (v : Scalar)
  | empty
  | below
  deriving DecidableEq

structure Line where
  depth : Nat
  key : Key
  content : Content
  deriving DecidableEq

section Lines

def Block.lines (depth : Nat) : Block → List Line
  | nil => []
  | scalar key v rest => ⟨depth, key, .scalar v⟩ :: rest.lines depth
  | nest key inner rest => ⟨depth, key, if inner = nil then .empty else .below⟩ ::
      (inner.lines (depth + 1) ++ rest.lines depth)

/-- The mapping at some depth, and the lines behind it. A key with nothing behind it and
nothing below has no value, as if it were not there. -/
def Block.ofLines : Nat → Nat → List Line → Block × List Line
  | 0, _, lines => (nil, lines)
  | _, _, [] => (nil, [])
  | bound + 1, depth, line :: lines =>
    if line.depth = depth then
      match line.content with
      | .scalar v =>
        let p := ofLines bound depth lines
        (scalar line.key v p.1, p.2)
      | .empty =>
        let p := ofLines bound depth lines
        (nest line.key nil p.1, p.2)
      | .below =>
        let p := ofLines bound (depth + 1) lines
        let q := ofLines bound depth p.2
        (if p.1 = nil then q.1 else nest line.key p.1 q.1, q.2)
    else (nil, line :: lines)

theorem Block.head_lines {depth : Nat} {b : Block} {line : Line}
    (h : (b.lines depth).head? = some line) : line.depth = depth := by
  cases b with
  | nil => cases h
  | scalar key v rest => exact (Option.some.inj h) ▸ rfl
  | nest key inner rest => exact (Option.some.inj h) ▸ rfl

/-- A mapping is read up to the first line that is less indented. -/
theorem Block.ofLines_lines (b : Block) {bound depth : Nat} {more : List Line}
    (hbound : (b.lines depth).length < bound) (hmore : ∀ line ∈ more.head?, line.depth < depth) :
    ofLines bound depth (b.lines depth ++ more) = (b, more) := by
  induction b generalizing bound depth more with
  | nil =>
    obtain ⟨bound, rfl⟩ := Nat.exists_eq_add_one_of_ne_zero (Nat.ne_zero_of_lt hbound)
    cases more with
    | nil => rfl
    | cons line more =>
      have hlt : line.depth < depth := hmore line rfl
      simp [lines, ofLines, Nat.ne_of_lt hlt]
  | scalar key v rest ih =>
    obtain ⟨bound, rfl⟩ := Nat.exists_eq_add_one_of_ne_zero (Nat.ne_zero_of_lt hbound)
    simp [lines, ofLines, ih (Nat.lt_of_succ_lt_succ hbound) hmore]
  | nest key inner rest hinner hrest =>
    obtain ⟨bound, rfl⟩ := Nat.exists_eq_add_one_of_ne_zero (Nat.ne_zero_of_lt hbound)
    simp only [lines, List.length_cons, List.length_append] at hbound
    have hr := @hrest bound depth more (by omega) hmore
    by_cases hnil : inner = nil
    · simp [lines, ofLines, hnil, hr]
    · have hbehind : ∀ line ∈ (rest.lines depth ++ more).head?, line.depth < depth + 1 := by
        intro line hline
        rw [List.head?_append] at hline
        cases hhead : (rest.lines depth).head? with
        | none =>
          rw [hhead, Option.none_or] at hline
          exact Nat.lt_succ_of_lt (hmore line hline)
        | some first =>
          rw [hhead, Option.some_or] at hline
          cases hline
          exact Nat.lt_succ_of_le (Nat.le_of_eq (head_lines hhead))
      have hi := @hinner bound (depth + 1) _ (by omega) hbehind
      simp [lines, ofLines, hnil, hi, hr]

end Lines

section Texts

def Scalar.toJson : Scalar → Json
  | str s => .str s
  | nat n => .int n
  | bool b => .bool b

def Scalar.write (v : Scalar) : List Char := Json.write 0 v.toJson

def Scalar.parse (text : List Char) : Option Scalar :=
  match Json.parse 0 text with
  | some (.str s, []) => some (.str s)
  | some (.int n, []) => if 0 ≤ n then some (.nat n.toNat) else none
  | some (.bool b, []) => some (.bool b)
  | _ => none

theorem Scalar.parse_write (v : Scalar) : parse v.write = some v := by
  have hjson : Json.parse 0 v.write = some (v.toJson, []) := by
    have hends : Json.Ends [] := by simp [Json.Ends]
    rw [← List.append_nil v.write]
    cases v with
    | str s => exact Json.parse_write 0 rfl hends
    | nat n => exact Json.parse_writeInt 0 n hends
    | bool b => exact Json.parse_write 0 rfl hends
  rw [parse, hjson]
  cases v <;> simp [toJson]

def Content.write : Content → List Char
  | scalar v => ' ' :: v.write
  | empty => [' ', '{', '}']
  | below => []

def Content.parse : List Char → Option Content
  | [] => some below
  | ' ' :: text => if text = ['{', '}'] then some empty else (Scalar.parse text).map scalar
  | _ => none

theorem Content.parse_write (c : Content) : parse c.write = some c := by
  cases c with
  | empty => rfl
  | below => rfl
  | scalar v =>
    have hne : v.write ≠ ['{', '}'] := by
      intro heq
      have hv := v.parse_write
      rw [heq] at hv
      cases hv
    rw [write, parse, if_neg hne, v.parse_write]
    rfl

def Line.write (line : Line) : List Char :=
  List.replicate (2 * line.depth) ' ' ++ (line.key.text.toList ++ ':' :: line.content.write)

def Key.parse (text : List Char) : Option Key :=
  if h : isPlain (String.ofList text).toList = true then some ⟨String.ofList text, h⟩ else none

def Line.parse (text : List Char) : Option Line := do
  let body := text.dropWhile (· = ' ')
  let key ← Key.parse (body.takeWhile (· ≠ ':'))
  let content ← Content.parse ((body.dropWhile (· ≠ ':')).drop 1)
  return ⟨(text.takeWhile (· = ' ')).length / 2, key, content⟩

theorem Key.parse_text (key : Key) : parse key.text.toList = some key := by
  have hplain := key.plain
  simp only [parse, String.ofList_toList, dif_pos hplain]

theorem Key.exists_cons (key : Key) : ∃ ch rest, key.text.toList = ch :: rest := by
  refine List.exists_cons_of_ne_nil fun hnil => ?_
  have hplain := key.plain
  rw [hnil] at hplain
  cases hplain

theorem Key.ne_of_mem {key : Key} {ch mark : Char} (h : ch ∈ key.text.toList)
    (hmark : (mark.isAlphanum || mark == '_') = false) : ch ≠ mark := by
  intro heq
  have hplain := key.plain
  rw [isPlain, Bool.and_eq_true, List.all_eq_true] at hplain
  have hch := hplain.2 ch h
  rw [heq, hmark] at hch
  cases hch

theorem Line.parse_write (line : Line) : parse line.write = some line := by
  obtain ⟨first, rest, hkey⟩ := line.key.exists_cons
  have hblank : ∀ ch ∈ List.replicate (2 * line.depth) ' ', decide (ch = ' ') = true :=
    fun ch hch => decide_eq_true (List.eq_of_mem_replicate hch)
  have hfirst : decide (first = ' ') = false :=
    decide_eq_false (Key.ne_of_mem (hkey ▸ List.mem_cons_self) (by decide))
  have hletter : ∀ ch ∈ line.key.text.toList, decide (ch ≠ ':') = true :=
    fun ch hch => decide_eq_true (Key.ne_of_mem hch (by decide))
  have htake : line.write.takeWhile (· = ' ') = List.replicate (2 * line.depth) ' ' := by
    rw [write, List.takeWhile_append_of_pos hblank, hkey, List.cons_append,
      List.takeWhile_cons_of_neg (by simpa using hfirst), List.append_nil]
  have hdrop : line.write.dropWhile (· = ' ') =
      line.key.text.toList ++ ':' :: line.content.write := by
    rw [write, List.dropWhile_append_of_pos hblank, hkey, List.cons_append,
      List.dropWhile_cons_of_neg (by simpa using hfirst)]
  have hname : (line.key.text.toList ++ ':' :: line.content.write).takeWhile (· ≠ ':') =
      line.key.text.toList := by
    rw [List.takeWhile_append_of_pos hletter, List.takeWhile_cons_of_neg (by simp),
      List.append_nil]
  have hcontent : (line.key.text.toList ++ ':' :: line.content.write).dropWhile (· ≠ ':') =
      ':' :: line.content.write := by
    rw [List.dropWhile_append_of_pos hletter, List.dropWhile_cons_of_neg (by simp)]
  have hdepth : 2 * line.depth / 2 = line.depth := by omega
  simp only [parse, htake, hdrop, hname, hcontent, List.drop_one, List.tail_cons, Key.parse_text,
    Content.parse_write, List.length_replicate, hdepth]
  rfl

def Block.text (b : Block) : List Char := (b.lines 0).flatMap fun line => line.write ++ ['\n']

def Block.parse (text : List Char) : Option Block := do
  let lines ← ((text.splitOn '\n').filter (· ≠ [])).mapM Line.parse
  match ofLines (lines.length + 1) 0 lines with
  | (b, []) => some b
  | _ => none

theorem newline_notMem_escape (ch : Char) : '\n' ∉ Json.escape ch := by
  intro h
  obtain ⟨rfl, hle⟩ | hpart | ⟨n, hn, hdigit⟩ := Json.mem_escape h
  · exact absurd hle (by decide)
  · simp at hpart
  · have hne : ∀ n < 16, '\n' ≠ Nat.digitChar n := by decide
    exact hne n hn hdigit

theorem isDigit_of_mem_write {n : Nat} {ch : Char} (h : ch ∈ (Scalar.nat n).write) :
    ch.isDigit = true := by
  have hnat : (Scalar.nat n).write = Nat.toDigits 10 n := by
    simp [Scalar.write, Scalar.toJson, Json.write, Json.writeInt]
  exact Json.isDigit_of_mem (hnat ▸ h)

theorem Scalar.newline_notMem_write (v : Scalar) : '\n' ∉ v.write := by
  cases v with
  | str s => simp [write, toJson, Json.write, Json.writeStr, newline_notMem_escape]
  | nat n => exact fun h => absurd (isDigit_of_mem_write h) (by decide)
  | bool b => cases b <;> decide

theorem Line.newline_notMem_write (line : Line) : '\n' ∉ line.write := by
  have hkey : '\n' ∉ line.key.text.toList := fun h => Key.ne_of_mem h (by decide) rfl
  have hcontent : '\n' ∉ line.content.write := by
    cases line.content with
    | scalar v => simp [Content.write, v.newline_notMem_write]
    | empty => decide
    | below => decide
  simp [write, hkey, hcontent, List.mem_replicate]

theorem Line.write_ne_nil (line : Line) : line.write ≠ [] := by
  simp [write]

/-- Lines are found again. -/
theorem splitOn_flatMap {lines : List (List Char)} (h : ∀ line ∈ lines, '\n' ∉ line)
    (hne : ∀ line ∈ lines, line ≠ []) :
    ((lines.flatMap fun line => line ++ ['\n']).splitOn '\n').filter (· ≠ []) = lines := by
  induction lines with
  | nil => simp [List.splitOn_nil]
  | cons line lines ih =>
    obtain ⟨hline, hlines⟩ := List.forall_mem_cons.mp h
    obtain ⟨hfirst, hrest⟩ := List.forall_mem_cons.mp hne
    rw [List.flatMap_cons, List.append_assoc, List.singleton_append,
      List.splitOn_append_cons_self, List.splitOn_eq_singleton hline, List.filter_append,
      ih hlines hrest, List.filter_cons_of_pos (by simpa using hfirst), List.filter_nil,
      List.singleton_append]

theorem mapM_parse_write (lines : List Line) :
    (lines.map Line.write).mapM Line.parse = some lines := by
  induction lines with
  | nil => rfl
  | cons line lines ih =>
    rw [List.map_cons, List.mapM_cons, line.parse_write, ih]
    rfl

/-- A mapping is read back from its text. -/
theorem Block.parse_text (b : Block) : parse b.text = some b := by
  have hlines : (b.text.splitOn '\n').filter (· ≠ []) = (b.lines 0).map Line.write := by
    have hsplit := @splitOn_flatMap ((b.lines 0).map Line.write)
      (List.forall_mem_map.mpr fun line _ => line.newline_notMem_write)
      (List.forall_mem_map.mpr fun line _ => line.write_ne_nil)
    rwa [List.flatMap_map] at hsplit
  have hall := @Block.ofLines_lines b _ 0 [] (Nat.lt_succ_self _) (by simp)
  rw [List.append_nil] at hall
  rw [parse, hlines, mapM_parse_write]
  simp only [Option.bind_eq_bind, Option.bind_some, hall]

end Texts

section Entries

/-- An entry that may be missing. -/
def Block.entry (key : Key) (v : Option Scalar) (rest : Block) : Block :=
  v.elim rest fun v => .scalar key v rest

def Block.under (key : Key) (inner : Option Block) (rest : Block) : Block :=
  inner.elim rest fun inner => .nest key inner rest

inductive Value where
  | scalar (v : Scalar)
  | block (b : Block)

/-- The value of the first entry of that name. -/
def Block.find (name : String) : Block → Option Value
  | nil => none
  | scalar key v rest => if key.text = name then some (.scalar v) else rest.find name
  | nest key inner rest => if key.text = name then some (.block inner) else rest.find name

theorem Block.find_entry {name : String} {key : Key} {v : Option Scalar} {rest : Block} :
    (entry key v rest).find name =
      if key.text = name then (v.map Value.scalar).or (rest.find name) else rest.find name := by
  cases v with
  | none => simp [entry]
  | some v => simp [entry, find]

theorem Block.find_under {name : String} {key : Key} {inner : Option Block} {rest : Block} :
    (under key inner rest).find name =
      if key.text = name then (inner.map Value.block).or (rest.find name)
      else rest.find name := by
  cases inner with
  | none => simp [under]
  | some inner => simp [under, find]

def readStr : Option Value → Except String (Option String)
  | none => .ok none
  | some (.scalar (.str s)) => .ok (some s)
  | _ => .error "invalid type: expected a string"

def readBool : Option Value → Except String (Option Bool)
  | none => .ok none
  | some (.scalar (.bool b)) => .ok (some b)
  | _ => .error "invalid type: expected a boolean"

def readNat (bound : Nat) : Option Value → Except String (Option Nat)
  | none => .ok none
  | some (.scalar (.nat n)) =>
    if n < bound then .ok (some n) else .error "invalid value: integer out of range"
  | _ => .error "invalid type: expected an integer"

def readBlock {α : Type} (read : Block → Except String α) :
    Option Value → Except String (Option α)
  | none => .ok none
  | some (.block b) => (read b).map some
  | _ => .error "invalid type: expected a mapping"

theorem readStr_map (x : Option String) : readStr (x.map (Value.scalar ∘ Scalar.str)) = .ok x := by
  cases x <;> rfl

theorem readBool_map (x : Option Bool) :
    readBool (x.map (Value.scalar ∘ Scalar.bool)) = .ok x := by
  cases x <;> rfl

theorem readNat_map {bound : Nat} {x : Option Nat} (h : ∀ n ∈ x, n < bound) :
    readNat bound (x.map (Value.scalar ∘ Scalar.nat)) = .ok x := by
  cases x with
  | none => rfl
  | some n => exact if_pos (h n rfl)

theorem lt_of_readNat {bound : Nat} {v : Option Value} {x : Option Nat}
    (h : readNat bound v = .ok x) : ∀ n ∈ x, n < bound := by
  unfold readNat at h
  split at h
  next =>
    cases h
    simp
  next n =>
    split_ifs at h with hlt
    cases h
    simpa using hlt
  next => cases h

theorem readBlock_map {α : Type} {read : Block → Except String α} {write : α → Block}
    (h : ∀ a, read (write a) = .ok a) (x : Option α) :
    readBlock read (x.map (Value.block ∘ write)) = .ok x := by
  cases x with
  | none => rfl
  | some a =>
    simp only [Option.map_some, Function.comp_apply, readBlock, h a]
    rfl

end Entries

section Marks

/-- The string on a line. -/
def Line.string? (line : Line) : Option String :=
  match line.content with
  | .scalar (.str s) => some s
  | _ => none

/-- The strings of a mapping, in their order. -/
def Block.strings (b : Block) : List String := (b.lines 0).filterMap Line.string?

theorem unmarked_escape {ch e : Char} (hmark : isMark ch = false) (h : e ∈ Json.escape ch) :
    isMark e = false := by
  obtain ⟨rfl, -⟩ | hpart | ⟨n, hn, rfl⟩ := Json.mem_escape h
  · exact hmark
  · have hunmarked : ∀ e ∈ ['\\', 'u', '0'], isMark e = false := by simp [isMark]
    exact hunmarked e hpart
  · have hunmarked : ∀ n < 16, isMark (Nat.digitChar n) = false := by decide
    exact hunmarked n hn

theorem alike_escape {s t : List Char} (chars : List Char) (h : Alike s t) :
    Alike (chars.flatMap Json.escape ++ s) (chars ++ t) := by
  induction chars with
  | nil => exact h
  | cons ch chars ih =>
    rw [List.flatMap_cons, List.append_assoc, List.cons_append]
    by_cases hmark : isMark ch = true
    · have hescape : Json.escape ch = [ch] := by
        simp only [isMark, Bool.or_eq_true, decide_eq_true_eq] at hmark
        obtain (rfl | rfl) | rfl := hmark <;> rfl
      rw [hescape]
      exact .same ch ih
    · rw [Bool.not_eq_true] at hmark
      have hne : Json.escape ch ≠ [] := by
        unfold Json.escape
        split_ifs <;> exact List.cons_ne_nil _ _
      exact @Alike.plain _ [ch] _ _ hne (List.cons_ne_nil _ _)
        (fun e he => unmarked_escape hmark he) (by simpa using hmark) ih

/-- A line up to its colon. -/
def Line.lead (line : Line) : List Char :=
  List.replicate (2 * line.depth) ' ' ++ (line.key.text.toList ++ [':'])

theorem Line.write_eq_lead (line : Line) : line.write = line.lead ++ line.content.write := by
  simp [write, lead]

theorem Line.unmarked_lead (line : Line) : ∀ ch ∈ line.lead, isMark ch = false := by
  intro ch hch
  simp only [lead, List.mem_append, List.mem_replicate, List.mem_singleton] at hch
  obtain ⟨-, rfl⟩ | hkey | rfl := hch
  · decide
  · have hdollar : ch ≠ '$' := Key.ne_of_mem hkey (by decide)
    have hopen : ch ≠ '{' := Key.ne_of_mem hkey (by decide)
    have hclose : ch ≠ '}' := Key.ne_of_mem hkey (by decide)
    simp [isMark, hdollar, hopen, hclose]
  · decide

/-- A line without a string has no marks, unless it is that of an empty mapping. -/
theorem Line.unmarked_write {line : Line} (hempty : line.content ≠ .empty)
    (hstring : line.string? = none) : ∀ ch ∈ line.write, isMark ch = false := by
  have hcontent : ∀ ch ∈ line.content.write, isMark ch = false := by
    unfold string? at hstring
    cases hline : line.content with
    | empty => exact absurd hline hempty
    | below => exact fun _ h => absurd h List.not_mem_nil
    | scalar v =>
      cases v with
      | str s =>
        rw [hline] at hstring
        cases hstring
      | bool b =>
        cases b
        all_goals simp [Content.write, Scalar.write, Scalar.toJson, Json.write, isMark]
      | nat n =>
        intro ch hch
        cases List.mem_cons.mp hch with
        | inl hblank => exact hblank ▸ (by decide)
        | inr hdigit =>
          have hch := isDigit_of_mem_write hdigit
          have hne : ∀ mark : Char, mark.isDigit = false → ch ≠ mark := by
            intro mark hmark heq
            rw [heq, hmark] at hch
            cases hch
          simp [isMark, hne]
  rw [write_eq_lead]
  intro ch hch
  exact (List.mem_append.mp hch).elim (line.unmarked_lead ch) (hcontent ch)

/-- The text of some lines has the marks of their strings, and something between any two of
the strings. -/
theorem alike_lines {lines : List Line} (h : ∀ line ∈ lines, line.content ≠ .empty)
    {xs ys : List Char} (hxs : xs ≠ []) (hys : ys ≠ []) (hx : ∀ ch ∈ xs, isMark ch = false)
    (hy : ∀ ch ∈ ys, isMark ch = false) :
    Alike (xs ++ lines.flatMap fun line => line.write ++ ['\n'])
      (ys ++ linesOf (lines.filterMap Line.string?)) := by
  induction lines generalizing xs ys with
  | nil => exact .plain hxs hys hx hy .nil
  | cons line lines ih =>
    obtain ⟨hline, hlines⟩ := List.forall_mem_cons.mp h
    cases hstring : line.string? with
    | none =>
      have hmore : ∀ ch ∈ xs ++ line.write ++ ['\n'], isMark ch = false := by
        intro ch hch
        simp only [List.mem_append, List.mem_singleton] at hch
        obtain (hch | hch) | rfl := hch
        · exact hx ch hch
        · exact Line.unmarked_write hline hstring ch hch
        · decide
      have hrest := ih hlines (by simp) hys hmore hy
      rw [List.filterMap_cons_none hstring, List.flatMap_cons]
      simpa only [List.append_assoc] using hrest
    | some s =>
      have hwrite : line.write =
          line.lead ++ ' ' :: '"' :: (s.toList.flatMap Json.escape ++ ['"']) := by
        rw [line.write_eq_lead]
        unfold Line.string? at hstring
        split at hstring
        next t hcontent =>
          cases hstring
          rw [hcontent]
          rfl
        next => cases hstring
      have hlead : ∀ ch ∈ xs ++ line.lead ++ [' ', '"'], isMark ch = false := by
        intro ch hch
        simp only [List.mem_append, List.mem_cons, List.not_mem_nil, or_false] at hch
        obtain (hch | hch) | rfl | rfl := hch
        · exact hx ch hch
        · exact line.unmarked_lead ch hch
        · decide
        · decide
      have hrest := @ih hlines ['"', '\n'] ['\n'] (by simp) (by simp) (by simp [isMark])
        (by simp [isMark])
      have hall := Alike.plain (by simp) hys hlead hy (alike_escape s.toList hrest)
      rw [List.filterMap_cons_some hstring, List.flatMap_cons, hwrite]
      simpa [linesOf] using hall

/-- No mapping below a key is empty. -/
def Block.Full : Block → Prop
  | nil => True
  | scalar _ _ rest => rest.Full
  | nest _ inner rest => inner ≠ nil ∧ inner.Full ∧ rest.Full

theorem Block.entry_some_ne_nil {key : Key} {v : Scalar} {rest : Block} :
    entry key (some v) rest ≠ nil := fun h => by cases h

theorem Block.full_entry {key : Key} {v : Option Scalar} {rest : Block} :
    (entry key v rest).Full ↔ rest.Full := by
  cases v <;> rfl

theorem Block.full_under {key : Key} {inner rest : Block} :
    (under key (some inner) rest).Full ↔ inner ≠ nil ∧ inner.Full ∧ rest.Full := Iff.rfl

theorem Block.Full.content_ne_empty {b : Block} (h : b.Full) {depth : Nat} :
    ∀ line ∈ b.lines depth, line.content ≠ .empty := by
  induction b generalizing depth with
  | nil => simp [lines]
  | scalar key v rest ih => simpa [lines] using ih h
  | nest key inner rest hinner hrest =>
    obtain ⟨hnil, hin, hre⟩ := h
    intro line hline
    simp only [lines, List.mem_cons, List.mem_append, if_neg hnil] at hline
    obtain rfl | hline | hline := hline
    · simp
    · exact hinner hin line hline
    · exact hrest hre line hline

/-- A placeholder in the text is one in the strings, which may begin in one string and end in
another. -/
theorem Block.hasPlaceholder_text {b : Block} (h : b.Full) :
    HasPlaceholder b.text ↔ HasPlaceholder (linesOf b.strings) := by
  have halike := @alike_lines (b.lines 0) h.content_ne_empty ['\n'] ['\n'] (by simp) (by simp)
    (by simp [isMark]) (by simp [isMark])
  have hiff := halike.hasPlaceholder_iff
  rwa [List.singleton_append, List.singleton_append, hasPlaceholder_cons_of_ne (by decide),
    hasPlaceholder_cons_of_ne (by decide)] at hiff

end Marks

end HeadEnd.Yaml
