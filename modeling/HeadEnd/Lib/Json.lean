import HeadEnd.Lib.Separated
import HeadEnd.Lib.Text
import Mathlib.Data.Rat.Defs

/-! JSON, as it is written and as it is kept in memory, what is expected of a library that
writes and reads it, and one that does so. The fields of an object that is written are in some
order, and a name may occur twice; in memory they are a map. -/
namespace HeadEnd
open Text

inductive Json where
  | null
  | bool (b : Bool)
  | int (n : Int)
  | float (x : ℚ)
  | str (s : String)
  | arr (items : List Json)
  | obj (fields : List (String × Json))

namespace Json

/-- The value of the last field of that name. -/
def lookup (name : String) : List (String × Json) → Option Json
  | [] => none
  | field :: fields => (lookup name fields).or (if field.1 = name then some field.2 else none)

def get (name : String) : Json → Option Json
  | obj fields => lookup name fields
  | _ => none

def asStr : Json → Option String
  | str s => some s
  | _ => none

def asU64 : Json → Option Nat
  | int n => if 0 ≤ n ∧ n < 2 ^ 64 then some n.toNat else none
  | _ => none

def asI64 : Json → Option Int
  | int n => if -2 ^ 63 ≤ n ∧ n < 2 ^ 63 then some n else none
  | _ => none

theorem asU64_natCast {n : Nat} (h : n < 2 ^ 64) : (int n).asU64 = some n := by
  simp only [asU64]
  rw [if_pos ⟨Int.natCast_nonneg n, by exact_mod_cast h⟩, Int.toNat_natCast]

theorem asI64_of_range {n : Int} (h : -2 ^ 63 ≤ n ∧ n < 2 ^ 63) : (int n).asI64 = some n := by
  simp only [asI64]
  rw [if_pos h]

def asArray : Json → Option (List Json)
  | arr items => some items
  | _ => none

/-- A field in its place, behind the smaller names and instead of a field of its name. -/
def put (field : String × Json) : List (String × Json) → List (String × Json)
  | [] => [field]
  | other :: fields =>
    if field.1 < other.1 then field :: other :: fields
    else if field.1 = other.1 then field :: fields
    else other :: put field fields

/-- The fields of a map: in the order of their names, and of each name the last one. -/
def toMap (fields : List (String × Json)) : List (String × Json) :=
  fields.foldl (fun map field => put field map) []

mutual

/-- What is in memory of what was written. -/
def ordered : Json → Json
  | null => null
  | bool b => bool b
  | int n => int n
  | float x => float x
  | str s => str s
  | arr items => arr (orderedItems items)
  | obj fields => obj (toMap (orderedFields fields))

def orderedItems : List Json → List Json
  | [] => []
  | item :: items => ordered item :: orderedItems items

def orderedFields : List (String × Json) → List (String × Json)
  | [] => []
  | (name, v) :: fields => (name, ordered v) :: orderedFields fields

end

example : (obj [("id", int 1), ("data", null), ("id", int 2)]).ordered =
    obj [("data", null), ("id", int 2)] := rfl

/-- Nested at most `depth` times, with integers of 64 bits as the only numbers. -/
def exact : Nat → Json → Bool
  | _, null | _, bool _ | _, str _ => true
  | _, int n => decide (-2 ^ 63 ≤ n ∧ n < 2 ^ 64)
  | _, float _ => false
  | 0, arr _ | 0, obj _ => false
  | depth + 1, arr items => items.all (exact depth)
  | depth + 1, obj fields => fields.all fun field => exact depth field.2

theorem exact_int {n : Int} (h : -2 ^ 63 ≤ n ∧ n < 2 ^ 64) (depth : Nat) :
    (int n).exact depth = true := by
  cases depth with
  | zero => exact decide_eq_true h
  | succ depth => exact decide_eq_true h

theorem exact_str (s : String) (depth : Nat) : (str s).exact depth = true := by
  cases depth with
  | zero => rfl
  | succ depth => rfl

section Maps
variable {field other : String × Json} {fields map : List (String × Json)}

theorem mem_put (h : other ∈ put field map) : other = field ∨ other ∈ map := by
  induction map with
  | nil => exact .inl (List.mem_singleton.mp h)
  | cons first map ih =>
    rw [put] at h
    split_ifs at h
    · exact List.mem_cons.mp h
    · exact (List.mem_cons.mp h).imp_right (List.mem_cons_of_mem _)
    · cases List.mem_cons.mp h with
      | inl heq => exact .inr (heq ▸ List.mem_cons_self)
      | inr hmem => exact (ih hmem).imp_right (List.mem_cons_of_mem _)

theorem mem_toMap (h : field ∈ toMap fields) : field ∈ fields := by
  have hfold : ∀ map, field ∈ fields.foldl (fun map field => put field map) map →
      field ∈ map ∨ field ∈ fields := by
    clear h
    induction fields with
    | nil => exact fun map h => .inl h
    | cons first fields ih =>
      intro map h
      cases ih _ h with
      | inl hput =>
        cases mem_put hput with
        | inl heq => exact .inr (heq ▸ List.mem_cons_self)
        | inr hmem => exact .inl hmem
      | inr hmem => exact .inr (List.mem_cons_of_mem _ hmem)
  exact (hfold [] h).resolve_left List.not_mem_nil

/-- In the order of the names, with none twice. -/
def Sorted (fields : List (String × Json)) : Prop := fields.Pairwise fun f g => f.1 < g.1

theorem Sorted.put (h : Sorted map) : Sorted (put field map) := by
  induction map with
  | nil => exact List.pairwise_singleton _ _
  | cons first map ih =>
    obtain ⟨hfirst, hmap⟩ := List.pairwise_cons.mp h
    rw [Json.put]
    split_ifs with hlt heq
    · refine List.pairwise_cons.mpr ⟨fun g hg => ?_, h⟩
      cases List.mem_cons.mp hg with
      | inl hg => exact hg ▸ hlt
      | inr hg => exact String.lt_trans hlt (hfirst g hg)
    · exact List.pairwise_cons.mpr ⟨fun g hg => heq ▸ hfirst g hg, hmap⟩
    · have hgt : first.1 < field.1 := Std.lt_of_le_of_ne (String.not_lt.mp hlt) (Ne.symm heq)
      refine List.pairwise_cons.mpr ⟨fun g hg => ?_, ih hmap⟩
      cases mem_put hg with
      | inl hg => exact hg ▸ hgt
      | inr hg => exact hfirst g hg

theorem sorted_toMap (fields : List (String × Json)) : Sorted (toMap fields) := by
  have hfold : ∀ map, Sorted map → Sorted (fields.foldl (fun map field => put field map) map) := by
    induction fields with
    | nil => exact fun map h => h
    | cons field fields ih => exact fun map h => ih _ h.put
  exact hfold [] .nil

theorem put_of_forall_lt (h : ∀ g ∈ map, g.1 < field.1) : put field map = map ++ [field] := by
  induction map with
  | nil => rfl
  | cons first map ih =>
    obtain ⟨hfirst, hmap⟩ := List.forall_mem_cons.mp h
    have hne : field.1 ≠ first.1 := fun heq => String.lt_irrefl _ (heq ▸ hfirst)
    rw [put, if_neg (String.lt_asymm hfirst), if_neg hne, ih hmap]
    rfl

theorem toMap_of_sorted (h : Sorted fields) : toMap fields = fields := by
  have hfold : ∀ map, Sorted (map ++ fields) →
      fields.foldl (fun map field => put field map) map = map ++ fields := by
    clear h
    induction fields with
    | nil => exact fun map _ => (List.append_nil map).symm
    | cons field fields ih =>
      intro map h
      have hlast : ∀ g ∈ map, g.1 < field.1 :=
        fun g hg => (List.pairwise_append.mp h).2.2 g hg field List.mem_cons_self
      have happend : map ++ field :: fields = map ++ [field] ++ fields := by simp
      rw [List.foldl_cons, put_of_forall_lt hlast, happend]
      exact ih _ (happend ▸ h)
  exact hfold [] h

theorem lookup_eq_none {name : String} (h : ∀ g ∈ map, g.1 ≠ name) : lookup name map = none := by
  induction map with
  | nil => rfl
  | cons first map ih =>
    obtain ⟨hfirst, hmap⟩ := List.forall_mem_cons.mp h
    rw [lookup, ih hmap, if_neg hfirst]
    rfl

theorem lookup_put {name : String} (h : Sorted map) :
    lookup name (put field map) = if field.1 = name then some field.2 else lookup name map := by
  induction map with
  | nil => rfl
  | cons first map ih =>
    obtain ⟨hfirst, hmap⟩ := List.pairwise_cons.mp h
    rw [put]
    by_cases hname : field.1 = name
    · -- no other field of the map has the name
      rw [if_pos hname]
      have hne : ∀ g : String × Json, field.1 < g.1 → g.1 ≠ name :=
        fun g hlt heq => String.lt_irrefl _ (heq ▸ hname ▸ hlt)
      split_ifs with hlt heq
      · have hnone : lookup name (first :: map) = none := by
          refine lookup_eq_none (List.forall_mem_cons.mpr ⟨hne first hlt, fun g hg => ?_⟩)
          exact hne g (String.lt_trans hlt (hfirst g hg))
        rw [lookup, hnone, if_pos hname]
        rfl
      · rw [lookup, lookup_eq_none fun g hg => hne g (heq ▸ hfirst g hg), if_pos hname]
        rfl
      · rw [lookup, ih hmap, if_pos hname]
        rfl
    · rw [if_neg hname]
      split_ifs with hlt heq
      · rw [lookup, if_neg hname, Option.or_none]
      · rw [lookup, lookup, if_neg hname, if_neg (heq ▸ hname)]
      · rw [lookup, lookup, ih hmap, if_neg hname]

theorem lookup_toMap (name : String) (fields : List (String × Json)) :
    lookup name (toMap fields) = lookup name fields := by
  have hfold : ∀ map, Sorted map →
      lookup name (fields.foldl (fun map field => put field map) map) =
        (lookup name fields).or (lookup name map) := by
    induction fields with
    | nil => exact fun _ _ => rfl
    | cons field fields ih =>
      intro map h
      rw [List.foldl_cons, ih _ h.put, lookup_put h, lookup, Option.or_assoc]
      congr 1
      split_ifs
      · rfl
      · rfl
  rw [toMap, hfold [] .nil]
  exact Option.or_none

theorem orderedItems_eq_map (items : List Json) : orderedItems items = items.map ordered := by
  induction items with
  | nil => rfl
  | cons item items ih => rw [orderedItems, ih, List.map_cons]

theorem orderedFields_eq_map (fields : List (String × Json)) :
    orderedFields fields = fields.map fun field => (field.1, field.2.ordered) := by
  induction fields with
  | nil => rfl
  | cons field fields ih => rw [orderedFields, ih, List.map_cons]

theorem orderedFields_put : orderedFields (put field map) =
    put (field.1, field.2.ordered) (orderedFields map) := by
  induction map with
  | nil => rfl
  | cons first map ih =>
    simp only [put, orderedFields]
    split_ifs
    · rfl
    · rfl
    · rw [orderedFields, ih]

theorem orderedFields_toMap (fields : List (String × Json)) :
    orderedFields (toMap fields) = toMap (orderedFields fields) := by
  have hfold : ∀ map, orderedFields (fields.foldl (fun map field => put field map) map) =
      (orderedFields fields).foldl (fun map field => put field map) (orderedFields map) := by
    induction fields with
    | nil => exact fun _ => rfl
    | cons field fields ih =>
      intro map
      rw [List.foldl_cons, ih, orderedFields_put]
      rfl
  exact hfold []

mutual

theorem ordered_ordered (v : Json) : v.ordered.ordered = v.ordered :=
  match v with
  | null | bool _ | int _ | float _ | str _ => rfl
  | arr items => congrArg arr (orderedItems_orderedItems items)
  | obj fields => by
    rw [ordered, ordered, orderedFields_toMap, orderedFields_orderedFields fields,
      toMap_of_sorted (sorted_toMap _)]

theorem orderedItems_orderedItems (items : List Json) :
    orderedItems (orderedItems items) = orderedItems items :=
  match items with
  | [] => rfl
  | item :: items => congrArg₂ List.cons (ordered_ordered item) (orderedItems_orderedItems items)

theorem orderedFields_orderedFields (fields : List (String × Json)) :
    orderedFields (orderedFields fields) = orderedFields fields :=
  match fields with
  | [] => rfl
  | (name, v) :: fields => congrArg₂ List.cons (congrArg (Prod.mk name) (ordered_ordered v))
      (orderedFields_orderedFields fields)

end

theorem lookup_orderedFields (name : String) (fields : List (String × Json)) :
    lookup name (orderedFields fields) = (lookup name fields).map ordered := by
  induction fields with
  | nil => rfl
  | cons field fields ih =>
    rw [orderedFields, lookup, lookup, ih]
    cases lookup name fields with
    | some v => rfl
    | none => split_ifs <;> rfl

/-- A field of the map is the last one of its name. -/
theorem get_ordered (name : String) (v : Json) :
    v.ordered.get name = (v.get name).map ordered := by
  cases v with
  | null | bool _ | int _ | float _ | str _ | arr _ => rfl
  | obj fields => rw [ordered, get, lookup_toMap, lookup_orderedFields, get]

theorem ordered_obj (names : List String) (hfields : fields.map Prod.fst = names)
    (hnames : names.Pairwise (· < ·))
    (hvalues : ∀ field ∈ fields, field.2.ordered = field.2) :
    (obj fields).ordered = obj fields := by
  have hsame : orderedFields fields = fields := by
    have hid : ∀ field ∈ fields, (field.1, field.2.ordered) = field :=
      fun field hfield => by rw [hvalues field hfield]
    rw [orderedFields_eq_map, List.map_congr_left hid, List.map_id']
  rw [← hfields] at hnames
  rw [ordered, hsame, toMap_of_sorted (List.pairwise_map.mp hnames)]

theorem exact_ordered {depth : Nat} {v : Json} (h : v.exact depth = true) :
    v.ordered.exact depth = true := by
  induction depth generalizing v with
  | zero =>
    cases v with
    | arr _ | obj _ => cases h
    | null | bool _ | int _ | float _ | str _ => exact h
  | succ depth ih =>
    cases v with
    | null | bool _ | int _ | float _ | str _ => exact h
    | arr items =>
      rw [exact, List.all_eq_true] at h
      rw [ordered, exact, List.all_eq_true, orderedItems_eq_map]
      exact List.forall_mem_map.mpr fun item hitem => ih (h item hitem)
    | obj fields =>
      rw [exact, List.all_eq_true] at h
      rw [ordered, exact, List.all_eq_true, orderedFields_eq_map]
      intro field hfield
      obtain ⟨written, hwritten, rfl⟩ := List.mem_map.mp (mem_toMap hfield)
      exact ih (h written hwritten)

end Maps

end Json

/-- A library for the text of values. It reads what it has written, field by field in the
order of the text, and what it writes has no blanks around it. -/
structure JsonFormat where
  toText : Json → String
  fromStr : String → Except String Json
  fromStr_toText : ∀ v, v.exact 127 = true → fromStr (toText v) = .ok v
  trimmed : ∀ v, trim (toText v) = toText v
  nonempty : ∀ v, toText v ≠ ""

namespace Json
section Sequences
variable {β : Type*} (write : β → List Char) (parse : List Char → Option (β × List Char))
  (close : Char)

/-- The elements behind the first one, with a comma before each. -/
def writeTail : List β → List Char
  | [] => [close]
  | x :: xs => ',' :: (write x ++ writeTail xs)

def writeSeq : List β → List Char
  | [] => [close]
  | x :: xs => write x ++ writeTail write close xs

def parseTail : Nat → List Char → Option (List β × List Char)
  | 0, _ | _, [] => none
  | bound + 1, ch :: rest =>
    if ch = close then some ([], rest)
    else if ch = ',' then do
      let (x, rest) ← parse rest
      let (xs, rest) ← parseTail bound rest
      return (x :: xs, rest)
    else none

def parseSeq (text : List Char) : Option (List β × List Char) :=
  match text with
  | [] => none
  | ch :: rest =>
    if ch = close then some ([], rest)
    else do
      let (x, rest) ← parse text
      let (xs, rest) ← parseTail parse close rest.length rest
      return (x :: xs, rest)

variable {write parse close}

/-- What may follow a value. -/
def Ends (rest : List Char) : Prop := ∀ ch ∈ rest.head?, ch.isDigit = false

theorem ends_writeTail (hclose : close.isDigit = false) (xs : List β) (rest : List Char) :
    Ends (writeTail write close xs ++ rest) := by
  cases xs with
  | nil => simpa [Ends, writeTail] using hclose
  | cons x xs => simp [Ends, writeTail]

theorem length_lt_writeTail (xs : List β) : xs.length < (writeTail write close xs).length := by
  induction xs with
  | nil => simp [writeTail]
  | cons x xs ih =>
    simp only [writeTail, List.length_cons, List.length_append]
    omega

theorem parseTail_writeTail (hclose : close.isDigit = false) (hcomma : close ≠ ',') {xs : List β}
    (h : ∀ x ∈ xs, ∀ rest, Ends rest → parse (write x ++ rest) = some (x, rest)) {bound : Nat}
    (hbound : xs.length < bound) (rest : List Char) :
    parseTail parse close bound (writeTail write close xs ++ rest) = some (xs, rest) := by
  induction xs generalizing bound with
  | nil =>
    obtain ⟨bound, rfl⟩ := Nat.exists_eq_add_one_of_ne_zero (Nat.ne_of_gt hbound)
    simp [writeTail, parseTail]
  | cons x xs ih =>
    obtain ⟨bound, rfl⟩ := Nat.exists_eq_add_one_of_ne_zero (Nat.ne_zero_of_lt hbound)
    have hx := h x List.mem_cons_self (writeTail write close xs ++ rest)
      (ends_writeTail hclose xs rest)
    have hxs := ih (fun y hy => h y (List.mem_cons_of_mem _ hy))
      (Nat.lt_of_add_lt_add_right hbound)
    simp only [writeTail, List.cons_append, List.append_assoc, parseTail, hcomma.symm, if_false,
      if_true, hx, Option.bind_eq_bind, Option.bind_some, hxs]
    rfl

theorem parseSeq_writeSeq (hclose : close.isDigit = false) (hcomma : close ≠ ',') {xs : List β}
    (h : ∀ x ∈ xs, ∀ rest, Ends rest → parse (write x ++ rest) = some (x, rest))
    (hfirst : ∀ x ∈ xs, ∃ ch text, write x = ch :: text ∧ ch ≠ close) (rest : List Char) :
    parseSeq parse close (writeSeq write close xs ++ rest) = some (xs, rest) := by
  cases xs with
  | nil => simp [writeSeq, parseSeq]
  | cons x xs =>
    obtain ⟨ch, text, htext, hch⟩ := hfirst x List.mem_cons_self
    have hx := h x List.mem_cons_self (writeTail write close xs ++ rest)
      (ends_writeTail hclose xs rest)
    have hlen : xs.length < (writeTail write close xs ++ rest).length := by
      rw [List.length_append]
      exact Nat.lt_add_right _ (length_lt_writeTail xs)
    have hxs := parseTail_writeTail hclose hcomma
      (fun y hy => h y (List.mem_cons_of_mem _ hy)) hlen rest
    rw [writeSeq, List.append_assoc]
    rw [htext] at hx ⊢
    simp only [List.cons_append] at hx ⊢
    simp only [parseSeq, hch, if_false, hx, Option.bind_eq_bind, Option.bind_some, hxs]
    rfl

theorem writeTail_last (xs : List β) : ∃ init, writeTail write close xs = init ++ [close] := by
  induction xs with
  | nil => exact ⟨[], rfl⟩
  | cons x xs ih =>
    obtain ⟨init, hinit⟩ := ih
    exact ⟨',' :: (write x ++ init), by simp [writeTail, hinit]⟩

theorem writeSeq_last (xs : List β) : ∃ init, writeSeq write close xs = init ++ [close] := by
  cases xs with
  | nil => exact ⟨[], rfl⟩
  | cons x xs =>
    obtain ⟨init, hinit⟩ := @writeTail_last _ write close xs
    exact ⟨write x ++ init, by simp [writeSeq, hinit]⟩

end Sequences

section Values

def escape (ch : Char) : List Char :=
  if ch = '"' ∨ ch = '\\' then ['\\', ch]
  else if ch.toNat < 32 then
    ['\\', 'u', '0', '0', Nat.digitChar (ch.toNat / 16), Nat.digitChar (ch.toNat % 16)]
  else [ch]

/-- An escape is the character itself, which is no control character then, or one of those that
an escape is made of. -/
theorem mem_escape {ch e : Char} (h : e ∈ escape ch) :
    (e = ch ∧ 32 ≤ ch.toNat) ∨ e ∈ ['\\', 'u', '0'] ∨ ∃ n < 16, e = Nat.digitChar n := by
  unfold escape at h
  split_ifs at h with hspecial hcontrol
  · simp only [List.mem_cons, List.not_mem_nil, or_false] at h
    cases h with
    | inl hslash => exact .inr (.inl (hslash ▸ List.mem_cons_self))
    | inr heq =>
      refine .inl ⟨heq, ?_⟩
      obtain rfl | rfl := hspecial
      · decide
      · decide
  · simp only [List.mem_cons, List.not_mem_nil, or_false] at h
    obtain rfl | rfl | rfl | rfl | rfl | rfl := h
    · simp
    · simp
    · simp
    · simp
    · exact .inr (.inr ⟨_, by omega, rfl⟩)
    · exact .inr (.inr ⟨_, Nat.mod_lt _ (by decide), rfl⟩)
  · exact .inl ⟨List.mem_singleton.mp h, Nat.le_of_not_lt hcontrol⟩

/-- The control character with these digits. -/
def control (high low : Char) : Option Char :=
  ((List.range 32).find? fun n => Nat.digitChar (n / 16) = high ∧ Nat.digitChar (n % 16) = low).map
    Char.ofNat

def writeStr (s : String) : List Char := '"' :: (s.toList.flatMap escape ++ ['"'])

/-- The rest of a string, from behind its first quotation mark. -/
def parseChars : List Char → Option (List Char × List Char)
  | [] => none
  | '"' :: rest => some ([], rest)
  | '\\' :: '"' :: rest => (parseChars rest).map fun p => ('"' :: p.1, p.2)
  | '\\' :: '\\' :: rest => (parseChars rest).map fun p => ('\\' :: p.1, p.2)
  | '\\' :: 'u' :: '0' :: '0' :: high :: low :: rest =>
    (control high low).bind fun ch => (parseChars rest).map fun p => (ch :: p.1, p.2)
  | ch :: rest => (parseChars rest).map fun p => (ch :: p.1, p.2)

def writeField (write : Json → List Char) (field : String × Json) : List Char :=
  writeStr field.1 ++ ':' :: write field.2

def writeInt (n : Int) : List Char :=
  if n < 0 then '-' :: Nat.toDigits 10 n.natAbs else Nat.toDigits 10 n.natAbs

def parseNat (text : List Char) : Option (Nat × List Char) :=
  let digits := text.takeWhile Char.isDigit
  if digits.isEmpty then none
  else some (ofDigits 10 (digits.map fun ch => ch.toNat - 48), text.dropWhile Char.isDigit)

/-- What is nested too deep, and what is no integer, is not written. -/
def write : Nat → Json → List Char
  | _, null | _, float _ | 0, arr _ | 0, obj _ => ['n', 'u', 'l', 'l']
  | _, bool true => ['t', 'r', 'u', 'e']
  | _, bool false => ['f', 'a', 'l', 's', 'e']
  | _, int n => writeInt n
  | _, str s => writeStr s
  | depth + 1, arr items => '[' :: writeSeq (write depth) ']' items
  | depth + 1, obj fields => '{' :: writeSeq (writeField (write depth)) '}' fields

def parseField (parse : List Char → Option (Json × List Char)) (text : List Char) :
    Option ((String × Json) × List Char) :=
  match text with
  | '"' :: rest =>
    match parseChars rest with
    | some (name, ':' :: rest) => (parse rest).map fun p => ((String.ofList name, p.1), p.2)
    | _ => none
  | _ => none

def parse (depth : Nat) (text : List Char) : Option (Json × List Char) :=
  match text with
  | 'n' :: 'u' :: 'l' :: 'l' :: rest => some (null, rest)
  | 't' :: 'r' :: 'u' :: 'e' :: rest => some (bool true, rest)
  | 'f' :: 'a' :: 'l' :: 's' :: 'e' :: rest => some (bool false, rest)
  | '"' :: rest => (parseChars rest).map fun p => (str (String.ofList p.1), p.2)
  | '[' :: rest =>
    match depth with
    | 0 => none
    | depth + 1 => (parseSeq (parse depth) ']' rest).map fun p => (arr p.1, p.2)
  | '{' :: rest =>
    match depth with
    | 0 => none
    | depth + 1 => (parseSeq (parseField (parse depth)) '}' rest).map fun p => (obj p.1, p.2)
  | '-' :: rest => (parseNat rest).map fun p => (int (-p.1), p.2)
  | _ => (parseNat text).map fun p => (int p.1, p.2)

theorem control_digits : ∀ n < 32,
    control (Nat.digitChar (n / 16)) (Nat.digitChar (n % 16)) = some (Char.ofNat n) := by
  decide

theorem parseChars_escape (ch : Char) (rest : List Char) :
    parseChars (escape ch ++ rest) = (parseChars rest).map fun p => (ch :: p.1, p.2) := by
  unfold escape
  split_ifs with hspecial hcontrol
  · obtain rfl | rfl := hspecial
    · rfl
    · rfl
  · have hch : control (Nat.digitChar (ch.toNat / 16)) (Nat.digitChar (ch.toNat % 16)) =
        some ch := by
      rw [control_digits _ hcontrol, Char.ofNat_toNat]
    simp only [List.cons_append, List.nil_append, parseChars, hch, Option.bind_some]
  · obtain ⟨hquote, hslash⟩ := not_or.mp hspecial
    rw [List.singleton_append, parseChars.eq_def]
    split
    all_goals simp_all

theorem parseChars_writeStr (s : String) (rest : List Char) :
    parseChars (s.toList.flatMap escape ++ '"' :: rest) = some (s.toList, rest) := by
  induction s.toList with
  | nil => simp [parseChars]
  | cons ch chars ih =>
    rw [List.flatMap_cons, List.append_assoc, parseChars_escape, ih]
    rfl

theorem isDigit_of_mem {n : Nat} {ch : Char} (h : ch ∈ Nat.toDigits 10 n) : ch.isDigit = true :=
  Nat.isDigit_of_mem_toDigits (by decide) (by decide) h

theorem parseNat_toDigits (n : Nat) {rest : List Char} (hrest : Ends rest) :
    parseNat (Nat.toDigits 10 n ++ rest) = some (n, rest) := by
  have hdigits : ∀ ch ∈ Nat.toDigits 10 n, ch.isDigit = true := fun _ => isDigit_of_mem
  have htake : (Nat.toDigits 10 n ++ rest).takeWhile Char.isDigit = Nat.toDigits 10 n := by
    rw [List.takeWhile_append_of_pos hdigits]
    cases rest with
    | nil => simp
    | cons ch rest => simp [hrest ch rfl]
  have hdrop : (Nat.toDigits 10 n ++ rest).dropWhile Char.isDigit = rest := by
    rw [List.dropWhile_append_of_pos hdigits]
    cases rest with
    | nil => simp
    | cons ch rest => simp [hrest ch rfl]
  have hne : (Nat.toDigits 10 n).isEmpty = false := by
    rw [List.isEmpty_eq_false_iff]
    exact Nat.toDigits_ne_nil
  simp only [parseNat, htake, hdrop, hne, Bool.false_eq_true, if_false, ofDigits_toDigits]

theorem parse_writeInt (depth : Nat) (n : Int) {rest : List Char} (hrest : Ends rest) :
    parse depth (writeInt n ++ rest) = some (int n, rest) := by
  have hparse := parseNat_toDigits n.natAbs hrest
  unfold writeInt
  split_ifs with hneg
  · have hn : (-(n.natAbs : Int)) = n := by omega
    simp only [List.cons_append, parse, hparse, Option.map_some, hn]
  · have hn : (n.natAbs : Int) = n := by omega
    have hne : ∀ ch, ch.isDigit = false →
        ∀ text, Nat.toDigits 10 n.natAbs ++ rest ≠ ch :: text := by
      intro ch hch text heq
      obtain ⟨first, digits, hcons⟩ := List.exists_cons_of_ne_nil (Nat.toDigits_ne_nil (b := 10)
        (n := n.natAbs))
      have hfirst : first.isDigit = true := isDigit_of_mem (hcons ▸ List.mem_cons_self)
      rw [hcons, List.cons_append] at heq
      obtain ⟨rfl, -⟩ := List.cons.inj heq
      rw [hch] at hfirst
      cases hfirst
    rw [parse.eq_def]
    split
    all_goals first
      | exact absurd ‹_ = _› (hne _ (by decide) _)
      | simp only [hparse, Option.map_some, hn]

/-- A text that neither begins nor ends with a blank, nor begins as an array ends. -/
structure Tight (text : List Char) : Prop where
  first : ∃ ch rest, text = ch :: rest ∧ isWhite ch = false ∧ ch ≠ ']'
  last : ∃ ch init, text = init ++ [ch] ∧ isWhite ch = false

theorem tight_writeStr (s : String) : Tight (writeStr s) where
  first := ⟨'"', _, rfl, by decide, by decide⟩
  last := ⟨'"', '"' :: s.toList.flatMap escape, rfl, by decide⟩

theorem tight_writeInt (n : Int) : Tight (writeInt n) := by
  have hdigit : ∀ ch : Char, ch.isDigit = true → isWhite ch = false ∧ ch ≠ ']' := by
    intro ch hch
    refine ⟨isWhite_of_isDigit hch, fun heq => ?_⟩
    rw [heq] at hch
    exact absurd hch (by decide)
  have hne : Nat.toDigits 10 n.natAbs ≠ [] := Nat.toDigits_ne_nil
  have hlast : ∃ ch init, Nat.toDigits 10 n.natAbs = init ++ [ch] ∧ isWhite ch = false :=
    ⟨_, _, (List.dropLast_append_getLast hne).symm,
      (hdigit _ (isDigit_of_mem (List.getLast_mem hne))).1⟩
  unfold writeInt
  split_ifs
  · obtain ⟨ch, init, hlast, hwhite⟩ := hlast
    exact ⟨⟨'-', _, rfl, by decide, by decide⟩, ⟨ch, '-' :: init, by rw [hlast]; rfl, hwhite⟩⟩
  · obtain ⟨ch, rest, hcons⟩ := List.exists_cons_of_ne_nil hne
    exact ⟨⟨ch, rest, hcons, hdigit ch (isDigit_of_mem (hcons ▸ List.mem_cons_self))⟩, hlast⟩

theorem tight_write (depth : Nat) (v : Json) : Tight (write depth v) := by
  have hnull : Tight ['n', 'u', 'l', 'l'] :=
    ⟨⟨'n', _, rfl, by decide, by decide⟩, ⟨'l', ['n', 'u', 'l'], rfl, by decide⟩⟩
  have htrue : Tight ['t', 'r', 'u', 'e'] :=
    ⟨⟨'t', _, rfl, by decide, by decide⟩, ⟨'e', ['t', 'r', 'u'], rfl, by decide⟩⟩
  have hfalse : Tight ['f', 'a', 'l', 's', 'e'] :=
    ⟨⟨'f', _, rfl, by decide, by decide⟩, ⟨'e', ['f', 'a', 'l', 's'], rfl, by decide⟩⟩
  cases depth with
  | zero =>
    cases v with
    | null | float _ | arr _ | obj _ => exact hnull
    | bool b => cases b <;> assumption
    | int n => exact tight_writeInt n
    | str s => exact tight_writeStr s
  | succ depth =>
    cases v with
    | null | float _ => exact hnull
    | bool b => cases b <;> assumption
    | int n => exact tight_writeInt n
    | str s => exact tight_writeStr s
    | arr items =>
      obtain ⟨init, hinit⟩ := @writeSeq_last _ (write depth) ']' items
      refine ⟨⟨'[', _, rfl, by decide, by decide⟩, ⟨']', '[' :: init, ?_, by decide⟩⟩
      rw [write, hinit]
      rfl
    | obj fields =>
      obtain ⟨init, hinit⟩ := @writeSeq_last _ (writeField (write depth)) '}' fields
      refine ⟨⟨'{', _, rfl, by decide, by decide⟩, ⟨'}', '{' :: init, ?_, by decide⟩⟩
      rw [write, hinit]
      rfl

theorem parse_write (depth : Nat) {v : Json} (h : v.exact depth = true) {rest : List Char}
    (hrest : Ends rest) : parse depth (write depth v ++ rest) = some (v, rest) := by
  induction depth generalizing v rest with
  | zero =>
    cases v with
    | null => simp [write, parse]
    | bool b => cases b <;> simp [write, parse]
    | int n => exact parse_writeInt 0 n hrest
    | float x => simp [exact] at h
    | str s => simp [write, writeStr, parse, parseChars_writeStr]
    | arr items => simp [exact] at h
    | obj fields => simp [exact] at h
  | succ depth ih =>
    cases v with
    | null => simp [write, parse]
    | bool b => cases b <;> simp [write, parse]
    | int n => exact parse_writeInt _ n hrest
    | float x => simp [exact] at h
    | str s => simp [write, writeStr, parse, parseChars_writeStr]
    | arr items =>
      rw [exact, List.all_eq_true] at h
      have hitems : ∀ item ∈ items, ∀ rest, Ends rest →
          parse depth (write depth item ++ rest) = some (item, rest) :=
        fun item hitem rest hrest => ih (h item hitem) hrest
      have hfirst : ∀ item ∈ items, ∃ ch text, write depth item = ch :: text ∧ ch ≠ ']' := by
        intro item _
        obtain ⟨ch, text, htext, -, hch⟩ := (tight_write depth item).first
        exact ⟨ch, text, htext, hch⟩
      have hseq := @parseSeq_writeSeq _ (write depth) (parse depth) ']' (by decide) (by decide) _
        hitems hfirst rest
      simp only [write, List.cons_append, parse]
      rw [hseq]
      rfl
    | obj fields =>
      rw [exact, List.all_eq_true] at h
      have hfields : ∀ field ∈ fields, ∀ rest, Ends rest → parseField (parse depth)
          (writeField (write depth) field ++ rest) = some (field, rest) := by
        intro field hfield rest hrest
        have hvalue := ih (h field hfield) hrest
        have hname := parseChars_writeStr field.1 (':' :: (write depth field.2 ++ rest))
        simp [writeField, writeStr, parseField, hname, hvalue]
      have hseq := @parseSeq_writeSeq _ (writeField (write depth)) (parseField (parse depth)) '}'
        (by decide) (by decide) _ hfields (fun field _ => ⟨'"', _, rfl, by decide⟩) rest
      simp only [write, List.cons_append, parse]
      rw [hseq]
      rfl

/-- Values in the compact form, down to the depth to which they are read. -/
def plainFormat : JsonFormat where
  toText v := String.ofList (write 127 v)
  fromStr text := match parse 127 text.toList with
    | some (v, []) => .ok v
    | _ => .error "invalid text"
  fromStr_toText v h := by
    have hparse := @parse_write 127 v h [] (by simp [Ends])
    rw [List.append_nil] at hparse
    rw [String.toList_ofList, hparse]
  trimmed v := by
    obtain ⟨⟨first, rest, hfirst, hf, -⟩, ⟨last, init, hlast, hl⟩⟩ := tight_write 127 v
    exact trim_of_ends (String.toList_ofList.trans hfirst) (String.toList_ofList.trans hlast) hf hl
  nonempty v hempty := by
    obtain ⟨first, rest, hfirst, -⟩ := (tight_write 127 v).first
    rw [hfirst] at hempty
    have hlist := congrArg String.toList hempty
    rw [String.toList_ofList] at hlist
    cases hlist

end Values

end Json

end HeadEnd
