import Mathlib.Tactic.Ring
import Mathlib.Tactic.Positivity

/-! Byte buffers read from the front. A read either returns a value with the
bytes that remain, returns an error with the bytes that remain, or panics
because fewer bytes remain than it asked for. Nothing here knows a format. -/
namespace HeadEnd.Buffer
variable {ε α β : Type}

abbrev Bytes := List UInt8

inductive Outcome (ε α : Type) where
  | ok (value : α) (rest : Bytes)
  | err (error : ε) (rest : Bytes)
  | panic
  deriving DecidableEq, Repr

structure Reader (ε α : Type) where
  run : Bytes → Outcome ε α

def Outcome.andThen (o : Outcome ε α) (f : α → Reader ε β) : Outcome ε β :=
  match o with
  | .ok a rest => (f a).run rest
  | .err e rest => .err e rest
  | .panic => .panic

instance : Monad (Reader ε) where
  pure a := ⟨fun buf => .ok a buf⟩
  bind r f := ⟨fun buf => (r.run buf).andThen f⟩

/-- Big-endian encoding in exactly `w` bytes; higher digits are cut off. -/
def be : Nat → Nat → Bytes
  | 0, _ => []
  | w+1, n => UInt8.ofNat (n / 256^w) :: be w n

def beVal : Bytes → Nat
  | [] => 0
  | b :: bs => b.toNat * 256^bs.length + beVal bs

@[simp] theorem be_length (w n : Nat) : (be w n).length = w := by
  induction w with
  | zero => rfl
  | succ w ih => simp [be, ih]

theorem beVal_be_mod (w n : Nat) : beVal (be w n) = n % 256^w := by
  induction w with
  | zero => simp [be, beVal, Nat.mod_one]
  | succ w ih =>
    have hb : (UInt8.ofNat (n / 256^w)).toNat = n / 256^w % 256 := by simp
    rw [be, beVal, be_length, ih, hb, Nat.mod_pow_succ]
    ring

theorem beVal_be {w n : Nat} (h : n < 256^w) : beVal (be w n) = n := by
  rw [beVal_be_mod, Nat.mod_eq_of_lt h]

theorem beVal_lt (bs : Bytes) : beVal bs < 256^bs.length := by
  induction bs with
  | nil => simp [beVal]
  | cons b bs ih =>
    have hb : b.toNat + 1 ≤ 256 := b.toNat_lt
    calc beVal (b :: bs) < b.toNat * 256^bs.length + 256^bs.length := by
          simpa [beVal] using ih
      _ = (b.toNat + 1) * 256^bs.length := by ring
      _ ≤ 256 * 256^bs.length := Nat.mul_le_mul_right _ hb
      _ = 256^(b :: bs).length := by rw [List.length_cons, pow_succ, Nat.mul_comm]

theorem be_add_mul (w n k : Nat) : be w (n + k * 256^w) = be w n := by
  induction w generalizing k with
  | zero => rfl
  | succ w ih =>
    have hs : n + k * 256^(w+1) = n + (k * 256) * 256^w := by ring
    rw [be, be, hs, ih, Nat.add_mul_div_right _ _ (by positivity)]
    congr 1
    apply UInt8.toNat_inj.mp
    simp

theorem be_beVal (bs : Bytes) : be bs.length (beVal bs) = bs := by
  induction bs with
  | nil => rfl
  | cons b bs ih =>
    have hlt := beVal_lt bs
    have hdiv : (beVal bs + b.toNat * 256^bs.length) / 256^bs.length = b.toNat := by
      rw [Nat.add_mul_div_right _ _ (by positivity), Nat.div_eq_of_lt hlt, Nat.zero_add]
    rw [List.length_cons, be, beVal, Nat.add_comm, hdiv, be_add_mul, ih]
    simp

/-- Stop with `e`, reading nothing, unless at least `n` bytes remain. -/
def ensure (n : Nat) (e : ε) : Reader ε Unit :=
  ⟨fun buf => if buf.length < n then .err e buf else .ok () buf⟩

def remaining : Reader ε Nat := ⟨fun buf => .ok buf.length buf⟩

def fail (e : ε) : Reader ε α := ⟨fun buf => .err e buf⟩

def ofOption (e : ε) : Option α → Reader ε α
  | some a => pure a
  | none => fail e

def ofExcept : Except ε α → Reader ε α
  | .ok a => pure a
  | .error e => fail e

/-- Copy `n` bytes out; asking for more than remain is a panic. -/
def copyToSlice (n : Nat) : Reader ε Bytes :=
  ⟨fun buf => if n ≤ buf.length then .ok (buf.take n) (buf.drop n) else .panic⟩

/-- Every fixed-width integer read is this one, at its own width. -/
def getBe (w : Nat) : Reader ε Nat := do
  let bs ← copyToSlice w
  pure (beVal bs)

def getU8 : Reader ε UInt8 := UInt8.ofNat <$> getBe 1
def getU16 : Reader ε UInt16 := UInt16.ofNat <$> getBe 2
def getU32 : Reader ε UInt32 := UInt32.ofNat <$> getBe 4
def getU64 : Reader ε UInt64 := UInt64.ofNat <$> getBe 8
def getI64 : Reader ε Int64 := (fun n => (UInt64.ofNat n).toInt64) <$> getBe 8
def getU128 : Reader ε (BitVec 128) := BitVec.ofNat 128 <$> getBe 16

def putU8 (v : UInt8) : Bytes := be 1 v.toNat
def putU16 (v : UInt16) : Bytes := be 2 v.toNat
def putU32 (v : UInt32) : Bytes := be 4 v.toNat
def putU64 (v : UInt64) : Bytes := be 8 v.toNat
def putI64 (v : Int64) : Bytes := be 8 v.toUInt64.toNat
def putU128 (v : BitVec 128) : Bytes := be 16 v.toNat

/-- `for _ in 0..n { out.push(r?) }` -/
def repeatN (r : Reader ε α) : Nat → Reader ε (List α)
  | 0 => pure []
  | n+1 => do
    let a ← r
    let as ← repeatN r n
    pure (a :: as)

@[simp] theorem run_pure (a : α) (buf : Bytes) : (pure a : Reader ε α).run buf = .ok a buf := rfl

@[simp] theorem run_bind (r : Reader ε α) (f : α → Reader ε β) (buf : Bytes) :
    (r >>= f).run buf = (r.run buf).andThen f := rfl

@[simp] theorem run_map (g : α → β) (r : Reader ε α) (buf : Bytes) :
    (g <$> r).run buf = (r.run buf).andThen (fun a => pure (g a)) := rfl

@[simp] theorem andThen_ok (a : α) (rest : Bytes) (f : α → Reader ε β) :
    (Outcome.ok a rest).andThen f = (f a).run rest := rfl

@[simp] theorem andThen_err (e : ε) (rest : Bytes) (f : α → Reader ε β) :
    (Outcome.err e rest).andThen f = .err e rest := rfl

@[simp] theorem andThen_panic (f : α → Reader ε β) :
    (Outcome.panic : Outcome ε α).andThen f = .panic := rfl

@[simp] theorem run_remaining (buf : Bytes) :
    (remaining : Reader ε Nat).run buf = .ok buf.length buf := rfl

@[simp] theorem run_fail (e : ε) (buf : Bytes) :
    (fail e : Reader ε α).run buf = .err e buf := rfl

theorem run_ensure (n : Nat) (e : ε) (buf : Bytes) :
    (ensure n e).run buf = if buf.length < n then .err e buf else .ok () buf := rfl

theorem run_ensure_of_le {n : Nat} {buf : Bytes} (e : ε) (h : n ≤ buf.length) :
    (ensure n e).run buf = .ok () buf := by
  rw [run_ensure, if_neg (by omega)]

@[simp] theorem run_ofOption_some (e : ε) (a : α) (buf : Bytes) :
    (ofOption e (some a)).run buf = .ok a buf := rfl

@[simp] theorem run_ofExcept_ok (a : α) (buf : Bytes) :
    (ofExcept (.ok a) : Reader ε α).run buf = .ok a buf := rfl

section RoundTrip

/- Reading back what the matching `put` wrote leaves exactly what follows it. -/

theorem copyToSlice_append {n : Nat} {bs : Bytes} (h : bs.length = n) (rest : Bytes) :
    (copyToSlice n : Reader ε Bytes).run (bs ++ rest) = .ok bs rest := by
  subst h
  simp [copyToSlice]

theorem getBe_be {w n : Nat} (h : n < 256^w) (rest : Bytes) :
    (getBe w : Reader ε Nat).run (be w n ++ rest) = .ok n rest := by
  rw [getBe, run_bind, copyToSlice_append (be_length w n), andThen_ok, beVal_be h]
  rfl

@[simp] theorem getU8_put (v : UInt8) (rest : Bytes) :
    (getU8 : Reader ε UInt8).run (putU8 v ++ rest) = .ok v rest := by
  have hv : v.toNat < 256^1 := by simpa using v.toNat_lt
  simp [getU8, putU8, getBe_be hv]

@[simp] theorem getU16_put (v : UInt16) (rest : Bytes) :
    (getU16 : Reader ε UInt16).run (putU16 v ++ rest) = .ok v rest := by
  have hv : v.toNat < 256^2 := by simpa using v.toNat_lt
  simp [getU16, putU16, getBe_be hv]

@[simp] theorem getU32_put (v : UInt32) (rest : Bytes) :
    (getU32 : Reader ε UInt32).run (putU32 v ++ rest) = .ok v rest := by
  have hv : v.toNat < 256^4 := by simpa using v.toNat_lt
  simp [getU32, putU32, getBe_be hv]

@[simp] theorem getU64_put (v : UInt64) (rest : Bytes) :
    (getU64 : Reader ε UInt64).run (putU64 v ++ rest) = .ok v rest := by
  have hv : v.toNat < 256^8 := by simpa using v.toNat_lt
  simp [getU64, putU64, getBe_be hv]

@[simp] theorem getI64_put (v : Int64) (rest : Bytes) :
    (getI64 : Reader ε Int64).run (putI64 v ++ rest) = .ok v rest := by
  have hv : v.toUInt64.toNat < 256^8 := by simpa using v.toUInt64.toNat_lt
  rw [getI64, putI64, run_map, getBe_be hv, andThen_ok, run_pure, UInt64.ofNat_toNat]
  rfl

@[simp] theorem getU128_put (v : BitVec 128) (rest : Bytes) :
    (getU128 : Reader ε (BitVec 128)).run (putU128 v ++ rest) = .ok v rest := by
  have hv : v.toNat < 256^16 := by simpa using v.isLt
  simp [getU128, putU128, getBe_be hv]

/-- A loop that reads back a list element by element, each leaving the rest. -/
theorem repeatN_flatMap (r : Reader ε α) (put : α → Bytes) (as : List α)
    (h : ∀ a ∈ as, ∀ rest, r.run (put a ++ rest) = .ok a rest) (rest : Bytes) :
    (repeatN r as.length).run (as.flatMap put ++ rest) = .ok as rest := by
  induction as with
  | nil => rfl
  | cons a as ih =>
    have ha := h a (by simp)
    have ht := ih (fun b hb => h b (List.mem_cons_of_mem a hb))
    simp only [List.length_cons, repeatN, List.flatMap_cons, List.append_assoc, run_bind,
      ha, andThen_ok, ht, run_pure]

end RoundTrip

@[simp] theorem putU8_length (v : UInt8) : (putU8 v).length = 1 := be_length 1 _
@[simp] theorem putU16_length (v : UInt16) : (putU16 v).length = 2 := be_length 2 _
@[simp] theorem putU32_length (v : UInt32) : (putU32 v).length = 4 := be_length 4 _
@[simp] theorem putU64_length (v : UInt64) : (putU64 v).length = 8 := be_length 8 _
@[simp] theorem putI64_length (v : Int64) : (putI64 v).length = 8 := be_length 8 _
@[simp] theorem putU128_length (v : BitVec 128) : (putU128 v).length = 16 := be_length 16 _

section Cut

/- Enough bytes are what some value is written as, and what follows it. -/

theorem exists_be {w : Nat} {buf : Bytes} (h : w ≤ buf.length) :
    ∃ n < 256^w, buf = be w n ++ buf.drop w := by
  have hlen : (buf.take w).length = w := by simp [h]
  refine ⟨beVal (buf.take w), ?_, ?_⟩
  · have hlt := beVal_lt (buf.take w)
    rwa [hlen] at hlt
  · have hbe := be_beVal (buf.take w)
    rw [hlen] at hbe
    rw [hbe, List.take_append_drop]

theorem exists_putU8 {buf : Bytes} (h : 1 ≤ buf.length) : ∃ v, buf = putU8 v ++ buf.drop 1 := by
  obtain ⟨n, hn, hbuf⟩ := exists_be h
  exact ⟨UInt8.ofNat n, by rw [putU8, UInt8.toNat_ofNat_of_lt' hn]; exact hbuf⟩

theorem exists_putU32 {buf : Bytes} (h : 4 ≤ buf.length) : ∃ v, buf = putU32 v ++ buf.drop 4 := by
  obtain ⟨n, hn, hbuf⟩ := exists_be h
  exact ⟨UInt32.ofNat n, by rw [putU32, UInt32.toNat_ofNat_of_lt' hn]; exact hbuf⟩

theorem exists_putU64 {buf : Bytes} (h : 8 ≤ buf.length) : ∃ v, buf = putU64 v ++ buf.drop 8 := by
  obtain ⟨n, hn, hbuf⟩ := exists_be h
  exact ⟨UInt64.ofNat n, by rw [putU64, UInt64.toNat_ofNat_of_lt' hn]; exact hbuf⟩

theorem exists_putU128 {buf : Bytes} (h : 16 ≤ buf.length) :
    ∃ v, buf = putU128 v ++ buf.drop 16 := by
  obtain ⟨n, hn, hbuf⟩ := exists_be h
  refine ⟨BitVec.ofNat 128 n, ?_⟩
  rw [putU128, BitVec.toNat_ofNat, Nat.mod_eq_of_lt (by omega)]
  exact hbuf

end Cut

/-- Reads until nothing comes any more, at most `fuel` times, and says what came. -/
def Reader.drain (r : Reader ε (Option α)) : Nat → Bytes → Option (List (Except ε α))
  | 0, _ => none
  | fuel + 1, buf =>
    match r.run buf with
    | .ok none _ => some []
    | .ok (some a) rest => (r.drain fuel rest).map (.ok a :: ·)
    | .err e rest => (r.drain fuel rest).map (.error e :: ·)
    | .panic => none

section Text

/- Text travels as its UTF-8 bytes; only valid UTF-8 reads back as text. -/

def asBytes (s : String) : Bytes := s.toByteArray.data.toList

def fromUtf8 (bs : Bytes) : Option String := String.fromUTF8? ⟨bs.toArray⟩

theorem fromUtf8_eq_some {bs : Bytes} {s : String} : fromUtf8 bs = some s ↔ asBytes s = bs := by
  unfold fromUtf8 asBytes String.fromUTF8?
  constructor
  · intro h
    split at h
    · rw [Option.some.injEq] at h
      subst h
      rfl
    · cases h
  · intro h
    have hb : (⟨bs.toArray⟩ : ByteArray) = s.toByteArray := by rw [← h]
    rw [dif_pos (hb ▸ s.isValidUTF8), Option.some.injEq]
    exact String.toByteArray_inj.mp hb

@[simp] theorem fromUtf8_asBytes (s : String) : fromUtf8 (asBytes s) = some s :=
  fromUtf8_eq_some.mpr rfl

end Text

section Pre

/- Weakest preconditions: `r.wp Q buf` says that reading `buf` with `r` does not
   panic, and that if it returns a value then `Q` holds of it and the rest. -/

def Reader.wp (r : Reader ε α) (Q : α → Bytes → Prop) (buf : Bytes) : Prop :=
  match r.run buf with
  | .ok a rest => Q a rest
  | .err _ _ => True
  | .panic => False

theorem wp_true_iff (r : Reader ε α) (buf : Bytes) :
    r.wp (fun _ _ => True) buf ↔ r.run buf ≠ .panic := by
  unfold Reader.wp
  cases h : r.run buf <;> simp

theorem wp_mono {r : Reader ε α} {P Q : α → Bytes → Prop} {buf : Bytes}
    (h : ∀ a rest, P a rest → Q a rest) (hp : r.wp P buf) : r.wp Q buf := by
  unfold Reader.wp at hp ⊢
  cases hr : r.run buf with
  | ok a rest => rw [hr] at hp; exact h a rest hp
  | err e rest => trivial
  | panic => rw [hr] at hp; exact hp

@[simp] theorem wp_pure (a : α) (Q : α → Bytes → Prop) (buf : Bytes) :
    (pure a : Reader ε α).wp Q buf ↔ Q a buf := Iff.rfl

@[simp] theorem wp_bind (r : Reader ε α) (f : α → Reader ε β) (Q : β → Bytes → Prop)
    (buf : Bytes) : (r >>= f).wp Q buf ↔ r.wp (fun a rest => (f a).wp Q rest) buf := by
  unfold Reader.wp
  rw [run_bind]
  cases r.run buf <;> rfl

@[simp] theorem wp_map (g : α → β) (r : Reader ε α) (Q : β → Bytes → Prop) (buf : Bytes) :
    (g <$> r).wp Q buf ↔ r.wp (fun a rest => Q (g a) rest) buf := by
  unfold Reader.wp
  rw [run_map]
  cases r.run buf <;> rfl

@[simp] theorem wp_fail (e : ε) (Q : α → Bytes → Prop) (buf : Bytes) :
    (fail e : Reader ε α).wp Q buf ↔ True := Iff.rfl

@[simp] theorem wp_remaining (Q : Nat → Bytes → Prop) (buf : Bytes) :
    (remaining : Reader ε Nat).wp Q buf ↔ Q buf.length buf := Iff.rfl

@[simp] theorem wp_ensure (n : Nat) (e : ε) (Q : Unit → Bytes → Prop) (buf : Bytes) :
    (ensure n e).wp Q buf ↔ (n ≤ buf.length → Q () buf) := by
  unfold Reader.wp
  rw [run_ensure]
  by_cases h : buf.length < n
  · simp [h]
  · simp [h, Nat.le_of_not_lt h]

@[simp] theorem wp_ofOption (e : ε) (o : Option α) (Q : α → Bytes → Prop) (buf : Bytes) :
    (ofOption e o).wp Q buf ↔ ∀ a, o = some a → Q a buf := by
  cases o <;> simp [ofOption]

@[simp] theorem wp_ofExcept (x : Except ε α) (Q : α → Bytes → Prop) (buf : Bytes) :
    (ofExcept x).wp Q buf ↔ ∀ a, x = .ok a → Q a buf := by
  cases x <;> simp [ofExcept]

@[simp] theorem wp_copyToSlice (n : Nat) (Q : Bytes → Bytes → Prop) (buf : Bytes) :
    (copyToSlice n : Reader ε Bytes).wp Q buf ↔
      n ≤ buf.length ∧ Q (buf.take n) (buf.drop n) := by
  unfold Reader.wp copyToSlice
  by_cases h : n ≤ buf.length <;> simp [h]

@[simp] theorem wp_getBe (w : Nat) (Q : Nat → Bytes → Prop) (buf : Bytes) :
    (getBe w : Reader ε Nat).wp Q buf ↔
      w ≤ buf.length ∧ Q (beVal (buf.take w)) (buf.drop w) := by
  simp [getBe]

@[simp] theorem wp_getU8 (Q : UInt8 → Bytes → Prop) (buf : Bytes) :
    (getU8 : Reader ε UInt8).wp Q buf ↔
      1 ≤ buf.length ∧ Q (UInt8.ofNat (beVal (buf.take 1))) (buf.drop 1) := by
  simp [getU8]

@[simp] theorem wp_getU16 (Q : UInt16 → Bytes → Prop) (buf : Bytes) :
    (getU16 : Reader ε UInt16).wp Q buf ↔
      2 ≤ buf.length ∧ Q (UInt16.ofNat (beVal (buf.take 2))) (buf.drop 2) := by
  simp [getU16]

@[simp] theorem wp_getU32 (Q : UInt32 → Bytes → Prop) (buf : Bytes) :
    (getU32 : Reader ε UInt32).wp Q buf ↔
      4 ≤ buf.length ∧ Q (UInt32.ofNat (beVal (buf.take 4))) (buf.drop 4) := by
  simp [getU32]

@[simp] theorem wp_getU64 (Q : UInt64 → Bytes → Prop) (buf : Bytes) :
    (getU64 : Reader ε UInt64).wp Q buf ↔
      8 ≤ buf.length ∧ Q (UInt64.ofNat (beVal (buf.take 8))) (buf.drop 8) := by
  simp [getU64]

@[simp] theorem wp_getU128 (Q : BitVec 128 → Bytes → Prop) (buf : Bytes) :
    (getU128 : Reader ε (BitVec 128)).wp Q buf ↔
      16 ≤ buf.length ∧ Q (BitVec.ofNat 128 (beVal (buf.take 16))) (buf.drop 16) := by
  simp [getU128]

/-- A loop cannot panic when its body keeps, from the bytes left, some `inv`
that rules a panic out. -/
theorem wp_repeatN (r : Reader ε α) (inv : Nat → Bytes → Prop)
    (h : ∀ n buf, inv (n+1) buf → r.wp (fun _ rest => inv n rest) buf)
    (n : Nat) (buf : Bytes) (hi : inv n buf) :
    (repeatN r n).wp (fun _ rest => inv 0 rest) buf := by
  induction n generalizing buf with
  | zero => exact hi
  | succ n ih =>
    simp only [repeatN, wp_bind, wp_pure]
    exact wp_mono (fun _ rest hrest => ih rest hrest) (h n buf hi)

end Pre

section Inversion

/- What the buffer was, given how reading it ended. -/

theorem bind_eq_ok {r : Reader ε α} {f : α → Reader ε β} {buf rest : Bytes} {b : β} :
    (r >>= f).run buf = .ok b rest ↔
      ∃ a mid, r.run buf = .ok a mid ∧ (f a).run mid = .ok b rest := by
  rw [run_bind]
  cases h : r.run buf <;> simp

theorem bind_eq_panic {r : Reader ε α} {f : α → Reader ε β} {buf : Bytes} :
    (r >>= f).run buf = .panic ↔
      r.run buf = .panic ∨ ∃ a mid, r.run buf = .ok a mid ∧ (f a).run mid = .panic := by
  rw [run_bind]
  cases h : r.run buf <;> simp

theorem map_eq_panic {g : α → β} {r : Reader ε α} {buf : Bytes} :
    (g <$> r).run buf = .panic ↔ r.run buf = .panic := by
  rw [run_map]
  cases h : r.run buf <;> simp

theorem map_eq_ok {g : α → β} {r : Reader ε α} {buf rest : Bytes} {b : β} :
    (g <$> r).run buf = .ok b rest ↔ ∃ a, r.run buf = .ok a rest ∧ g a = b := by
  rw [run_map]
  cases h : r.run buf <;> simp
  tauto

theorem ensure_eq_ok {n : Nat} {e : ε} {buf rest : Bytes} {u : Unit} :
    (ensure n e).run buf = .ok u rest ↔ n ≤ buf.length ∧ buf = rest := by
  rw [run_ensure]
  by_cases h : buf.length < n
  · simp [h]
  · simp [h, Nat.le_of_not_lt h]

theorem ensure_ne_panic {n : Nat} {e : ε} {buf : Bytes} : (ensure n e).run buf ≠ .panic := by
  rw [run_ensure]
  split <;> simp

theorem ofOption_eq_ok {e : ε} {o : Option α} {a : α} {buf rest : Bytes} :
    (ofOption e o).run buf = .ok a rest ↔ o = some a ∧ buf = rest := by
  cases o <;> simp [ofOption]

theorem ofExcept_eq_ok {x : Except ε α} {a : α} {buf rest : Bytes} :
    (ofExcept x).run buf = .ok a rest ↔ x = .ok a ∧ buf = rest := by
  cases x <;> simp [ofExcept]

theorem copyToSlice_eq_ok {n : Nat} {buf rest bs : Bytes} :
    (copyToSlice n : Reader ε Bytes).run buf = .ok bs rest ↔ bs.length = n ∧ buf = bs ++ rest := by
  constructor
  · intro h
    unfold copyToSlice at h
    by_cases hn : n ≤ buf.length
    · simp only [hn, if_true, Outcome.ok.injEq] at h
      obtain ⟨rfl, rfl⟩ := h
      simp [hn]
    · simp [hn] at h
  · rintro ⟨hlen, rfl⟩
    exact copyToSlice_append hlen rest

theorem copyToSlice_eq_panic {n : Nat} {buf : Bytes} :
    (copyToSlice n : Reader ε Bytes).run buf = .panic ↔ buf.length < n := by
  unfold copyToSlice
  by_cases hn : n ≤ buf.length
  · simp [hn]
  · simp [hn, Nat.lt_of_not_le hn]

theorem getBe_eq_ok {w n : Nat} {buf rest : Bytes} :
    (getBe w : Reader ε Nat).run buf = .ok n rest ↔ n < 256^w ∧ buf = be w n ++ rest := by
  constructor
  · intro h
    obtain ⟨bs, mid, hc, hp⟩ := bind_eq_ok.mp h
    obtain ⟨hlen, rfl⟩ := copyToSlice_eq_ok.mp hc
    simp only [run_pure, Outcome.ok.injEq] at hp
    obtain ⟨rfl, rfl⟩ := hp
    refine ⟨hlen ▸ beVal_lt bs, ?_⟩
    rw [← hlen, be_beVal]
  · rintro ⟨hn, rfl⟩
    exact getBe_be hn rest

theorem getBe_eq_panic {w : Nat} {buf : Bytes} :
    (getBe w : Reader ε Nat).run buf = .panic ↔ buf.length < w := by
  rw [getBe, bind_eq_panic, copyToSlice_eq_panic]
  simp

theorem getU8_eq_ok {v : UInt8} {buf rest : Bytes} :
    (getU8 : Reader ε UInt8).run buf = .ok v rest ↔ buf = v :: rest := by
  have hcons : putU8 v ++ rest = v :: rest := by simp [putU8, be]
  constructor
  · intro h
    obtain ⟨n, hg, rfl⟩ := map_eq_ok.mp h
    obtain ⟨hn, rfl⟩ := getBe_eq_ok.mp hg
    simp [be]
  · rintro rfl
    rw [← hcons, getU8_put]

theorem getU16_eq_ok {v : UInt16} {buf rest : Bytes} :
    (getU16 : Reader ε UInt16).run buf = .ok v rest ↔ buf = putU16 v ++ rest := by
  constructor
  · intro h
    obtain ⟨n, hg, rfl⟩ := map_eq_ok.mp h
    obtain ⟨hn, rfl⟩ := getBe_eq_ok.mp hg
    have hv : (UInt16.ofNat n).toNat = n := by simpa using hn
    rw [putU16, hv]
  · rintro rfl
    exact getU16_put v rest

/-- A loop panics exactly when one of its rounds does, the rounds before it
having read the strings that a round accepts. -/
theorem repeatN_eq_panic {r : Reader ε α} {G : Bytes → Prop}
    (hG : ∀ buf rest, (∃ a, r.run buf = .ok a rest) ↔ ∃ bs, G bs ∧ buf = bs ++ rest)
    {n : Nat} {buf : Bytes} :
    (repeatN r n).run buf = .panic ↔
      ∃ (done : List Bytes) (cut : Bytes), done.length < n ∧ (∀ bs ∈ done, G bs) ∧
        buf = done.flatten ++ cut ∧ r.run cut = .panic := by
  induction n generalizing buf with
  | zero => simp [repeatN]
  | succ n ih =>
    constructor
    · intro h
      rcases bind_eq_panic.mp h with hp | ⟨a, mid, hok, hrest⟩
      · exact ⟨[], buf, by simp, by simp, rfl, hp⟩
      · have htail : (repeatN r n).run mid = .panic := by
          rcases bind_eq_panic.mp hrest with hp | ⟨as, last, -, hpure⟩
          · exact hp
          · cases hpure
        obtain ⟨bs, hbs, rfl⟩ := (hG buf mid).mp ⟨a, hok⟩
        obtain ⟨done, cut, hlt, hall, rfl, hcut⟩ := ih.mp htail
        refine ⟨bs :: done, cut, by simpa using hlt, ?_, by simp, hcut⟩
        simpa using ⟨hbs, hall⟩
    · rintro ⟨done, cut, hlt, hall, rfl, hcut⟩
      cases done with
      | nil => exact bind_eq_panic.mpr (Or.inl hcut)
      | cons bs done =>
        obtain ⟨a, hok⟩ := (hG (bs ++ (done.flatten ++ cut)) _).mpr ⟨bs, hall bs (by simp), rfl⟩
        have htail : (repeatN r n).run (done.flatten ++ cut) = .panic :=
          ih.mpr ⟨done, cut, by simpa using hlt, fun x hx => hall x (by simp [hx]), rfl, hcut⟩
        rw [List.flatten_cons, List.append_assoc]
        exact bind_eq_panic.mpr (Or.inr ⟨a, _, hok, bind_eq_panic.mpr (Or.inl htail)⟩)

end Inversion

end HeadEnd.Buffer
