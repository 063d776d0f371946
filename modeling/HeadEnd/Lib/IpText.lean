import HeadEnd.Lib.Text

/-! The text formats of IP addresses and of socket addresses in the standard library of
Rust: what `Display` prints, and what `FromStr` of a socket address reads. -/
namespace HeadEnd.IpText
open HeadEnd.Text

/-- The numbers one after another, with a separator between them. -/
def separated (sep : Char) (base : Nat) : List Nat → List Char
  | [] => []
  | [n] => Nat.toDigits base n
  | n :: m :: ns => Nat.toDigits base n ++ sep :: separated sep base (m :: ns)

/-- A number cut into groups, the most significant one first. -/
def groups (base count n : Nat) : List Nat :=
  (List.range count).map fun i => n / base ^ (count - 1 - i) % base

def ipv4Chars (bits : UInt32) : List Char := separated '.' 10 (groups 256 4 bits.toNat)

structure Span where
  start : Nat := 0
  len : Nat := 0

/-- The first of the longest runs of zeros. -/
def longestZeros (segments : List Nat) : Span :=
  let scan := fun ((longest, current) : Span × Span) ((segment, i) : Nat × Nat) =>
    if segment = 0 then
      let current : Span := ⟨if current.len = 0 then i else current.start, current.len + 1⟩
      (if longest.len < current.len then current else longest, current)
    else (longest, {})
  (segments.zipIdx.foldl scan ({}, {})).1

def ipv6Chars (bits : BitVec 128) : List Char :=
  let segments := groups 65536 8 bits.toNat
  let longest := longestZeros segments
  -- an address that stands for an IPv4 address
  if bits.toNat / 2 ^ 32 = 0xffff then
    ':' :: ':' :: 'f' :: 'f' :: 'f' :: 'f' :: ':' :: ipv4Chars (UInt32.ofNat bits.toNat)
  else if 1 < longest.len then
    separated ':' 16 (segments.take longest.start) ++
      ':' :: ':' :: separated ':' 16 (segments.drop (longest.start + longest.len))
  else separated ':' 16 segments

/-- The long form, with all eight groups. -/
def ipv6LongChars (bits : BitVec 128) : List Char := separated ':' 16 (groups 65536 8 bits.toNat)

/-- A reader takes what it reads from the front of a text. -/
abbrev Reader (α : Type) := List Char → Option (α × List Char)

def readGivenChar (given : Char) : List Char → Option (List Char)
  | [] => none
  | ch :: rest => if ch = given then some rest else none

def readNumber (maxDigits : Option Nat) (allowZeroPrefix : Bool) (bound : Nat) : Reader Nat :=
  fun s =>
    let digits := s.takeWhile Char.isDigit
    let n := ofDigits 10 (digits.map fun ch => ch.toNat - 48)
    if digits = [] then none
    else if maxDigits.any (· < digits.length) then none
    else if !allowZeroPrefix && digits.head? = some '0' && 1 < digits.length then none
    else if n < bound then some (n, s.dropWhile Char.isDigit)
    else none

def readSeparated (sep : Char) (read : Reader Nat) : Nat → Reader (List Nat)
  | 0, s => some ([], s)
  | 1, s => do
    let (n, s) ← read s
    some ([n], s)
  | count + 2, s => do
    let (n, s) ← read s
    let s ← readGivenChar sep s
    let (ns, s) ← readSeparated sep read (count + 1) s
    some (n :: ns, s)

/-- There are no octal numbers in an IP address. -/
def readOctet : Reader Nat := readNumber (some 3) false 256

def readIpv4Addr : Reader UInt32 := fun s => do
  let (octets, s) ← readSeparated '.' readOctet 4 s
  some (UInt32.ofNat (ofDigits 256 octets), s)

def readPort : Reader UInt16 := fun s => do
  let s ← readGivenChar ':' s
  let (port, s) ← readNumber none true 65536 s
  some (UInt16.ofNat port, s)

section
variable {A : Type}

def readSocketAddrV4 (v4 : UInt32 → UInt16 → A) : Reader A := fun s => do
  let (ip, s) ← readIpv4Addr s
  let (port, s) ← readPort s
  some (v4 ip port, s)

/-- `bracketed` reads an IPv6 address and its port, behind the opening bracket. -/
def readSocketAddr (v4 : UInt32 → UInt16 → A) (bracketed : Reader A) : Reader A := fun s =>
  match readSocketAddrV4 v4 s with
  | some r => some r
  | none => (readGivenChar '[' s).bind bracketed

def readGroup : Reader Nat := fun s =>
  let digits := s.takeWhile fun ch => (hexValue ch).isSome
  if digits = [] then none
  else if 4 < digits.length then none
  else (digits.mapM hexValue).map fun values =>
    (ofDigits 16 values, s.dropWhile fun ch => (hexValue ch).isSome)

/-- An IPv6 address in its long form and a port, behind the opening bracket. -/
def readLongForm (v6 : BitVec 128 → UInt16 → A) : Reader A := fun s => do
  let (groups, s) ← readSeparated ':' readGroup 8 s
  let s ← readGivenChar ']' s
  let (port, s) ← readPort s
  some (v6 (BitVec.ofNat 128 (ofDigits 65536 groups)) port, s)

/-- Nothing may be left over. -/
def parseSocketAddr (v4 : UInt32 → UInt16 → A) (bracketed : Reader A) (s : List Char) : Option A :=
  match readSocketAddr v4 bracketed s with
  | some (addr, []) => some addr
  | _ => none

end

section Numbers
variable {maxDigits : Option Nat} {allowZeroPrefix : Bool} {bound n : Nat} {t : List Char}

theorem takeWhile_toDigits (ht : t.takeWhile Char.isDigit = []) :
    (Nat.toDigits 10 n ++ t).takeWhile Char.isDigit = Nat.toDigits 10 n := by
  rw [List.takeWhile_append_of_pos, ht, List.append_nil]
  exact fun ch hch => Nat.isDigit_of_mem_toDigits (by decide) (by decide) hch

theorem dropWhile_toDigits (ht : t.takeWhile Char.isDigit = []) :
    (Nat.toDigits 10 n ++ t).dropWhile Char.isDigit = t := by
  have hsplit := List.takeWhile_append_dropWhile (p := Char.isDigit) (l := Nat.toDigits 10 n ++ t)
  rw [takeWhile_toDigits ht] at hsplit
  exact List.append_cancel_left hsplit

/-- A number is read to its end. -/
theorem readNumber_toDigits (hbound : n < bound) (hmax : ∀ m ∈ maxDigits, 0 < m ∧ n < 10 ^ m)
    (ht : t.takeWhile Char.isDigit = []) :
    readNumber maxDigits allowZeroPrefix bound (Nat.toDigits 10 n ++ t) = some (n, t) := by
  have hfits : maxDigits.any (· < (Nat.toDigits 10 n).length) = false := by
    cases maxDigits with
    | none => rfl
    | some m =>
      obtain ⟨hpos, hlt⟩ := hmax m rfl
      simpa using (Nat.length_toDigits_le_iff (by decide) hpos).mpr hlt
  have hzero : (!allowZeroPrefix && (Nat.toDigits 10 n).head? = some '0' &&
      1 < (Nat.toDigits 10 n).length) = false := by
    by_cases hn : n = 0
    · simp [hn]
    · simp [head_toDigits hn]
  rw [readNumber, takeWhile_toDigits ht, dropWhile_toDigits ht, ofDigits_toDigits]
  simp only [hfits, hzero, if_neg Nat.toDigits_ne_nil, Bool.false_eq_true, if_false, if_pos hbound]

theorem readNumber_rest {s : List Char}
    (h : readNumber maxDigits allowZeroPrefix bound s = some (n, t)) :
    t = s.dropWhile Char.isDigit := by
  simp only [readNumber] at h
  split_ifs at h
  exact (Prod.mk.inj (Option.some.inj h)).2.symm

end Numbers

section Groups
variable {t : List Char} {ns : List Nat}

theorem readGivenChar_self {ch : Char} : readGivenChar ch (ch :: t) = some t := if_pos rfl

/-- The numbers are read one after another, if each is read up to what may follow it. -/
theorem readSeparated_separated {sep : Char} {base : Nat} {read : Reader Nat}
    {stops : List Char → Prop} (hsep : ∀ t, stops (sep :: t))
    (hread : ∀ n ∈ ns, ∀ t, stops t → read (Nat.toDigits base n ++ t) = some (n, t))
    (ht : stops t) :
    readSeparated sep read ns.length (separated sep base ns ++ t) = some (ns, t) := by
  induction ns using separated.induct with
  | case1 => rfl
  | case2 n =>
    rw [separated, List.length_singleton, readSeparated, hread n List.mem_cons_self t ht]
    rfl
  | case3 n m ns ih =>
    have hrest := ih fun k hk => hread k (List.mem_cons_of_mem n hk)
    rw [separated, List.append_assoc, List.cons_append, List.length_cons, List.length_cons,
      readSeparated, hread n List.mem_cons_self _ (hsep _)]
    simp only [Option.bind_eq_bind, Option.bind_some, readGivenChar_self]
    rw [← List.length_cons, hrest]
    rfl

theorem lt_of_mem_groups {base count n k : Nat} (hbase : 0 < base) (h : k ∈ groups base count n) :
    k < base := by
  obtain ⟨i, -, rfl⟩ := List.mem_map.mp h
  exact Nat.mod_lt _ hbase

theorem length_groups (base count n : Nat) : (groups base count n).length = count := by
  rw [groups, List.length_map, List.length_range]

theorem readOctet_toDigits {n : Nat} (hn : n < 256) (ht : t.takeWhile Char.isDigit = []) :
    readOctet (Nat.toDigits 10 n ++ t) = some (n, t) := by
  refine readNumber_toDigits hn (fun m hm => ?_) ht
  obtain rfl := Option.some.inj hm
  omega

theorem readIpv4Addr_ipv4Chars (bits : UInt32) (ht : t.takeWhile Char.isDigit = []) :
    readIpv4Addr (ipv4Chars bits ++ t) = some (bits, t) := by
  have hread := @readSeparated_separated t (groups 256 4 bits.toNat) '.' 10 readOctet
    (fun t => t.takeWhile Char.isDigit = []) (fun t => List.takeWhile_cons_of_neg (by decide))
    (fun n hn t ht => readOctet_toDigits (lt_of_mem_groups (by decide) hn) ht) ht
  have hbits : ofDigits 256 (groups 256 4 bits.toNat) = bits.toNat :=
    (ofDigits_range 4 bits.toNat).trans (Nat.mod_eq_of_lt bits.toNat_lt)
  rw [length_groups] at hread
  rw [readIpv4Addr, ipv4Chars, hread]
  simp only [Option.bind_eq_bind, Option.bind_some, hbits, UInt32.ofNat_toNat]

theorem isSome_of_mapM_eq_some {α β : Type} {f : α → Option β} {xs : List α} {ys : List β}
    (h : xs.mapM f = some ys) : ∀ x ∈ xs, (f x).isSome = true := by
  induction xs generalizing ys with
  | nil => simp
  | cons x xs ih =>
    rw [List.mapM_cons] at h
    obtain ⟨y, hy, h⟩ := Option.bind_eq_some_iff.mp h
    obtain ⟨rest, hrest, -⟩ := Option.bind_eq_some_iff.mp h
    exact List.forall_mem_cons.mpr ⟨by simp [hy], ih hrest⟩

theorem readGroup_toDigits {n : Nat} (hn : n < 65536)
    (ht : (t.takeWhile fun ch => (hexValue ch).isSome) = []) :
    readGroup (Nat.toDigits 16 n ++ t) = some (n, t) := by
  obtain ⟨values, hvalues, hnumber⟩ := exists_mapM_hexValue n
  have hdigits := isSome_of_mapM_eq_some hvalues
  have hlen : ¬ 4 < (Nat.toDigits 16 n).length :=
    Nat.not_lt.mpr ((Nat.length_toDigits_le_iff (by decide) (by decide)).mpr hn)
  have htake : ((Nat.toDigits 16 n ++ t).takeWhile fun ch => (hexValue ch).isSome) =
      Nat.toDigits 16 n := by
    rw [List.takeWhile_append_of_pos hdigits, ht, List.append_nil]
  have hdrop : ((Nat.toDigits 16 n ++ t).dropWhile fun ch => (hexValue ch).isSome) = t := by
    have hsplit := List.takeWhile_append_dropWhile (p := fun ch => (hexValue ch).isSome)
      (l := Nat.toDigits 16 n ++ t)
    rw [htake] at hsplit
    exact List.append_cancel_left hsplit
  simp only [readGroup, htake, hdrop, if_neg Nat.toDigits_ne_nil, if_neg hlen, hvalues,
    Option.map_some, hnumber]

theorem readPort_toDigits (port : UInt16) :
    readPort (':' :: Nat.toDigits 10 port.toNat) = some (port, []) := by
  have hread := @readNumber_toDigits none true 65536 port.toNat [] port.toNat_lt (by simp) rfl
  rw [List.append_nil] at hread
  simp only [readPort, readGivenChar_self, Option.bind_eq_bind, Option.bind_some, hread,
    UInt16.ofNat_toNat]

end Groups

section Addresses
variable {A : Type} {v4 : UInt32 → UInt16 → A} {bracketed : Reader A}

/-- An IPv4 address and a port, with a colon between them. -/
theorem parseSocketAddr_ipv4Chars (bits : UInt32) (port : UInt16) :
    parseSocketAddr v4 bracketed (ipv4Chars bits ++ ':' :: Nat.toDigits 10 port.toNat) =
      some (v4 bits port) := by
  have hip := @readIpv4Addr_ipv4Chars (':' :: Nat.toDigits 10 port.toNat) bits rfl
  simp only [parseSocketAddr, readSocketAddr, readSocketAddrV4, hip, readPort_toDigits,
    Option.bind_eq_bind, Option.bind_some]

/-- An IPv6 address in its long form and in brackets, and a port. -/
theorem parseSocketAddr_ipv6LongChars {v6 : BitVec 128 → UInt16 → A} (bits : BitVec 128)
    (port : UInt16) :
    parseSocketAddr v4 (readLongForm v6)
      ('[' :: (ipv6LongChars bits ++ ']' :: ':' :: Nat.toDigits 10 port.toNat)) =
        some (v6 bits port) := by
  have hgroups := @readSeparated_separated (']' :: ':' :: Nat.toDigits 10 port.toNat)
    (groups 65536 8 bits.toNat) ':' 16 readGroup
    (fun t => (t.takeWhile fun ch => (hexValue ch).isSome) = [])
    (fun t => List.takeWhile_cons_of_neg (by decide))
    (fun n hn t ht => readGroup_toDigits (lt_of_mem_groups (by decide) hn) ht)
    (List.takeWhile_cons_of_neg (by decide))
  have hbits : ofDigits 65536 (groups 65536 8 bits.toNat) = bits.toNat :=
    (ofDigits_range 8 bits.toNat).trans (Nat.mod_eq_of_lt bits.isLt)
  have hv4 : readSocketAddrV4 v4
      ('[' :: (ipv6LongChars bits ++ ']' :: ':' :: Nat.toDigits 10 port.toNat)) = none := rfl
  rw [length_groups] at hgroups
  rw [parseSocketAddr, readSocketAddr, hv4]
  simp only [readGivenChar_self, Option.bind_some, readLongForm, ipv6LongChars, hgroups,
    Option.bind_eq_bind, readPort_toDigits, hbits, BitVec.ofNat_toNat, BitVec.setWidth_eq]

/-- Text that an IPv6 address may begin with, up to its first colon. -/
def Plain (pre : List Char) : Prop := '.' ∉ pre ∧ '[' ∉ pre

theorem plain_toDigits (n : Nat) : Plain (Nat.toDigits 16 n) := by
  have hdot : ∀ k, Nat.digitChar k ≠ '.' := fun k => Nat.digitChar_ne '.' (by decide)
  have hopen : ∀ k, Nat.digitChar k ≠ '[' := fun k => Nat.digitChar_ne '[' (by decide)
  induction n using Nat.strong_induction_on with
  | _ n ih =>
    rw [Nat.toDigits_eq_if (by decide)]
    split
    next => simp [Plain, (hdot n).symm, (hopen n).symm]
    next hge =>
      obtain ⟨hdots, hopens⟩ := ih (n / 16) (by omega)
      simp [Plain, hdots, hopens, (hdot _).symm, (hopen _).symm]

theorem separated_colon (ns : List Nat) (t : List Char) :
    ∃ pre rest, separated ':' 16 ns ++ ':' :: t = pre ++ ':' :: rest ∧ Plain pre := by
  match ns with
  | [] => exact ⟨[], t, rfl, by simp [Plain]⟩
  | [n] => exact ⟨_, t, rfl, plain_toDigits n⟩
  | n :: m :: ns =>
    refine ⟨_, separated ':' 16 (m :: ns) ++ ':' :: t, ?_, plain_toDigits n⟩
    rw [separated, List.append_assoc, List.cons_append]

/-- The first colon of an IPv6 address comes before any dot. -/
theorem ipv6Chars_colon (bits : BitVec 128) :
    ∃ pre rest, ipv6Chars bits = pre ++ ':' :: rest ∧ Plain pre := by
  simp only [ipv6Chars]
  split
  · exact ⟨[], _, rfl, by simp [Plain]⟩
  · split
    · exact separated_colon _ _
    · exact ⟨_, separated ':' 16 (groups 65536 8 bits.toNat).tail, rfl,
        plain_toDigits (bits.toNat / 65536 ^ 7 % 65536)⟩

theorem dropWhile_head_ne {pre rest : List Char} (h : '.' ∉ pre) :
    ((pre ++ ':' :: rest).dropWhile Char.isDigit).head? ≠ some '.' := by
  induction pre with
  | nil => simp [show Char.isDigit ':' = false by decide]
  | cons ch pre ih =>
    rw [List.mem_cons, not_or] at h
    rw [List.cons_append, List.dropWhile_cons]
    split
    · exact ih h.2
    · simpa using Ne.symm h.1

theorem readIpv4Addr_colon {pre rest : List Char} (h : '.' ∉ pre) :
    readIpv4Addr (pre ++ ':' :: rest) = none := by
  rw [readIpv4Addr, readSeparated]
  cases hread : readOctet (pre ++ ':' :: rest) with
  | none => rfl
  | some r =>
    have hsep : readGivenChar '.' r.2 = none := by
      have hhead := @dropWhile_head_ne pre rest h
      rw [← readNumber_rest hread] at hhead
      cases hr : r.2 with
      | nil => rfl
      | cons ch rest => exact if_neg fun hch => hhead (by rw [hr, hch]; rfl)
    simp only [Option.bind_eq_bind, Option.bind_some, hsep, Option.bind_none]

/-- An IPv6 address needs brackets. -/
theorem parseSocketAddr_ipv6Chars (bits : BitVec 128) (t : List Char) :
    parseSocketAddr v4 bracketed (ipv6Chars bits ++ t) = none := by
  obtain ⟨pre, rest, heq, hdot, hopen⟩ := ipv6Chars_colon bits
  have hip := @readIpv4Addr_colon pre (rest ++ t) hdot
  have hbracket : readGivenChar '[' (pre ++ ':' :: (rest ++ t)) = none := by
    cases pre with
    | nil => rfl
    | cons ch pre => exact if_neg fun hch => hopen (by simp [hch])
  rw [heq, List.append_assoc, List.cons_append, parseSocketAddr, readSocketAddr, readSocketAddrV4,
    hip, hbracket]
  rfl

end Addresses

section Accepted
variable {α A : Type}

/-- The characters that addresses are made of. -/
def isAddrChar (ch : Char) : Bool :=
  (hexValue ch).isSome || ch = '.' || ch = ':' || ch = '[' || ch = ']'

/-- What a text must have lost to become another one: some of those characters. -/
def Taken (s t : List Char) : Prop := ∃ pre, s = pre ++ t ∧ ∀ ch ∈ pre, isAddrChar ch = true

def Reader.Takes (read : Reader α) : Prop := ∀ s a t, read s = some (a, t) → Taken s t

theorem Taken.trans {s t u : List Char} (h : Taken s t) (k : Taken t u) : Taken s u := by
  obtain ⟨pre, rfl, hpre⟩ := h
  obtain ⟨more, rfl, hmore⟩ := k
  refine ⟨pre ++ more, (List.append_assoc _ _ _).symm, fun ch hch => ?_⟩
  exact (List.mem_append.mp hch).elim (hpre ch) (hmore ch)

theorem taken_dropWhile {p : Char → Bool} (h : ∀ ch, p ch = true → isAddrChar ch = true)
    (s : List Char) : Taken s (s.dropWhile p) := by
  refine ⟨s.takeWhile p, List.takeWhile_append_dropWhile.symm, fun ch hch => ?_⟩
  exact h ch (List.all_eq_true.mp List.all_takeWhile ch hch)

theorem taken_readGivenChar {given : Char} {s t : List Char} (hgiven : isAddrChar given = true)
    (h : readGivenChar given s = some t) : Taken s t := by
  cases s with
  | nil => cases h
  | cons ch rest =>
    rw [readGivenChar] at h
    split_ifs at h with hch
    cases h
    exact ⟨[ch], rfl, by simpa [hch] using hgiven⟩

theorem isAddrChar_of_isDigit {ch : Char} (h : ch.isDigit = true) : isAddrChar ch = true := by
  have hval : 48 ≤ ch.val ∧ ch.val ≤ 57 := by simpa [Char.isDigit] using h
  have hrange : '0' ≤ ch ∧ ch ≤ '9' := hval
  simp [isAddrChar, hexValue, hrange]

theorem takes_readNumber (maxDigits : Option Nat) (allowZeroPrefix : Bool) (bound : Nat) :
    (readNumber maxDigits allowZeroPrefix bound).Takes := by
  intro s n t h
  rw [readNumber_rest h]
  exact taken_dropWhile (fun _ => isAddrChar_of_isDigit) s

theorem takes_readGroup : readGroup.Takes := by
  intro s n t h
  have hrest : t = s.dropWhile fun ch => (hexValue ch).isSome := by
    simp only [readGroup] at h
    split_ifs at h
    obtain ⟨values, -, hpair⟩ := Option.map_eq_some_iff.mp h
    exact (Prod.mk.inj hpair).2.symm
  rw [hrest]
  exact taken_dropWhile (fun ch hch => by simp [isAddrChar, hch]) s

theorem Reader.Takes.separated {sep : Char} {read : Reader Nat} (hsep : isAddrChar sep = true)
    (h : read.Takes) (count : Nat) : (readSeparated sep read count).Takes := by
  induction count using Nat.twoStepInduction with
  | zero =>
    intro s ns t hread
    cases hread
    exact ⟨[], rfl, by simp⟩
  | one =>
    intro s ns t hread
    obtain ⟨⟨n, s'⟩, hn, hread⟩ := Option.bind_eq_some_iff.mp hread
    cases hread
    exact h s n _ hn
  | more count _ ih =>
    intro s ns t hread
    obtain ⟨⟨n, s₁⟩, hn, hread⟩ := Option.bind_eq_some_iff.mp hread
    obtain ⟨s₂, hchar, hread⟩ := Option.bind_eq_some_iff.mp hread
    obtain ⟨⟨ms, s₃⟩, hms, hread⟩ := Option.bind_eq_some_iff.mp hread
    cases hread
    exact (h s n s₁ hn).trans ((taken_readGivenChar hsep hchar).trans (ih s₂ ms _ hms))

theorem takes_readPort : readPort.Takes := by
  intro s port t h
  obtain ⟨s₁, hchar, h⟩ := Option.bind_eq_some_iff.mp h
  obtain ⟨⟨n, s₂⟩, hn, h⟩ := Option.bind_eq_some_iff.mp h
  cases h
  exact (taken_readGivenChar (by decide) hchar).trans (takes_readNumber _ _ _ _ _ _ hn)

theorem takes_readIpv4Addr : readIpv4Addr.Takes := by
  intro s ip t h
  obtain ⟨⟨octets, s₁⟩, hoctets, h⟩ := Option.bind_eq_some_iff.mp h
  cases h
  exact (takes_readNumber _ _ _).separated (by decide) 4 _ _ _ hoctets

theorem takes_readSocketAddrV4 (v4 : UInt32 → UInt16 → A) : (readSocketAddrV4 v4).Takes := by
  intro s addr t h
  obtain ⟨⟨ip, s₁⟩, hip, h⟩ := Option.bind_eq_some_iff.mp h
  obtain ⟨⟨port, s₂⟩, hport, h⟩ := Option.bind_eq_some_iff.mp h
  cases h
  exact (takes_readIpv4Addr _ _ _ hip).trans (takes_readPort _ _ _ hport)

theorem takes_readLongForm (v6 : BitVec 128 → UInt16 → A) : (readLongForm v6).Takes := by
  intro s addr t h
  obtain ⟨⟨groups, s₁⟩, hgroups, h⟩ := Option.bind_eq_some_iff.mp h
  obtain ⟨s₂, hchar, h⟩ := Option.bind_eq_some_iff.mp h
  obtain ⟨⟨port, s₃⟩, hport, h⟩ := Option.bind_eq_some_iff.mp h
  cases h
  exact (takes_readGroup.separated (by decide) 8 _ _ _ hgroups).trans
    ((taken_readGivenChar (by decide) hchar).trans (takes_readPort _ _ _ hport))

/-- What is accepted is not empty and has no other characters. -/
theorem of_parseSocketAddr {v4 : UInt32 → UInt16 → A} {bracketed : Reader A}
    (hbracketed : bracketed.Takes) {s : List Char} {addr : A}
    (h : parseSocketAddr v4 bracketed s = some addr) :
    s ≠ [] ∧ ∀ ch ∈ s, isAddrChar ch = true := by
  constructor
  · intro hnil
    rw [hnil] at h
    cases h
  · have hread : readSocketAddr v4 bracketed s = some (addr, []) := by
      unfold parseSocketAddr at h
      split at h
      next hread =>
        cases h
        exact hread
      next => cases h
    have htaken : Taken s [] := by
      unfold readSocketAddr at hread
      split at hread
      next r hv4 =>
        cases hread
        exact takes_readSocketAddrV4 v4 _ _ _ hv4
      next =>
        obtain ⟨s₁, hchar, hread⟩ := Option.bind_eq_some_iff.mp hread
        exact (taken_readGivenChar (by decide) hchar).trans (hbracketed _ _ _ hread)
    obtain ⟨pre, rfl, hpre⟩ := htaken
    simpa using hpre

end Accepted

end HeadEnd.IpText
