import Mathlib.Data.Rat.Floor

/-! Arithmetic in single precision. A number of the format is the rational that it stands for,
and an operation gives the number of the format nearest to its exact result. The numbers here
are far from the ends of the range, so nothing overflows or loses precision there. -/
namespace HeadEnd.Float32

/-- The nearest integer, and the even one of two that are equally near. -/
def nearest (q : ℚ) : Int :=
  let n := ⌊q⌋
  if 2 * (q - n) < 1 ∨ (2 * (q - n) = 1 ∧ n % 2 = 0) then n else n + 1

/-- The greatest power of two in the number. -/
def exponent (q : ℚ) : Int :=
  let e : Int := (Nat.log2 q.num.natAbs : Int) - Nat.log2 q.den
  if (2 : ℚ) ^ e ≤ |q| then e else e - 1

/-- The unit in the last of the 24 places. -/
def ulp (q : ℚ) : ℚ := 2 ^ (exponent q - 23)

def round (q : ℚ) : ℚ := nearest (q / ulp q) * ulp q

def div (a b : ℚ) : ℚ := round (a / b)

def mul (a b : ℚ) : ℚ := round (a * b)

/-- A cast from an unsigned integer. -/
def ofNat (n : Nat) : ℚ := round n

/-- A cast to `u8`: it cuts the fraction and stops at 255. -/
def toUInt8 (q : ℚ) : UInt8 := UInt8.ofNat (min 255 ⌊q⌋.toNat)

@[simp] theorem round_zero : round 0 = 0 := by
  simp [round, nearest]

@[simp] theorem zero_div (b : ℚ) : div 0 b = 0 := by
  simp [div]

@[simp] theorem zero_mul (b : ℚ) : mul 0 b = 0 := by
  simp [mul]

@[simp] theorem ofNat_zero : ofNat 0 = 0 := by
  simp [ofNat]

end HeadEnd.Float32
