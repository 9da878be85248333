import Mathlib

/-!
Rounding a rational to a binary floating-point format, on natural numbers.
-/

namespace BinaryFloat

/-- A binary format: its significant bits, and the exponents of its normal numbers. -/
structure Format where
  precision : Nat
  minExponent : Int
  maxExponent : Int

/-- IEEE 754 binary64. -/
def binary64 : Format := ⟨53, -1022, 1023⟩

/-- A finite number of a format, `±significand * 2 ^ exponent`. -/
structure Binary where
  negative : Bool
  significand : Nat
  exponent : Int
  deriving DecidableEq, Repr

/-- Whether `num / den < 2 ^ exponent`. -/
def belowPow (num den : Nat) (exponent : Int) : Bool :=
  if 0 ≤ exponent then num < den * 2 ^ exponent.toNat else num * 2 ^ (-exponent).toNat < den

/-- `⌊log₂ (num / den)⌋` for positive `num` and `den`: the difference of the two bit lengths is
that or one more. -/
def floorLog2 (num den : Nat) : Int :=
  let guess := (num.log2 : Int) - den.log2
  if belowPow num den guess then guess - 1 else guess

/-- The exponent of the last bit the format keeps of `num / den`: `precision - 1` bits below
its leading one, and never below the last bit of the subnormals. -/
def quantum (format : Format) (num den : Nat) : Int :=
  max (floorLog2 num den - (format.precision - 1)) (format.minExponent - (format.precision - 1))

/-- `num / den` divided by `2 ^ exponent`, as a numerator and a denominator. -/
def scale (num den : Nat) (exponent : Int) : Nat × Nat :=
  if 0 ≤ exponent then (num, den * 2 ^ exponent.toNat) else (num * 2 ^ (-exponent).toNat, den)

/-- The natural number nearest to `num / den`, the even one of two equally near. -/
def roundHalfEven (num den : Nat) : Nat :=
  let quotient := num / den
  if 2 * (num % den) < den then quotient
  else if den < 2 * (num % den) then quotient + 1
  else if quotient % 2 = 0 then quotient else quotient + 1

/-- Whether `significand * 2 ^ exponent` reaches `2 ^ (maxExponent + 1)`, past every finite
value of the format. -/
def overflows (format : Format) (significand : Nat) (exponent : Int) : Bool :=
  let room := format.maxExponent + 1 - exponent
  if 0 ≤ room then 2 ^ room.toNat ≤ significand else 0 < significand

/-- `±num / den` rounded to the nearest value of the format, ties to even; `none` when the
result is too large for it. -/
def round (format : Format) (negative : Bool) (num den : Nat) : Option Binary :=
  if num = 0 then some ⟨negative, 0, 0⟩
  else
    let exponent := quantum format num den
    let scaled := scale num den exponent
    let significand := roundHalfEven scaled.1 scaled.2
    if overflows format significand exponent then none else some ⟨negative, significand, exponent⟩

/-- The integer part of a finite value, rounded toward zero. -/
def Binary.truncate (x : Binary) : Int :=
  let magnitude :=
    if 0 ≤ x.exponent then x.significand * 2 ^ x.exponent.toNat else x.significand / 2 ^ (-x.exponent).toNat
  if x.negative then -magnitude else magnitude

/-- An exact quotient is its own nearest integer. -/
theorem roundHalfEven_mul (value : Nat) {den : Nat} (positive : 0 < den) :
    roundHalfEven (value * den) den = value := by
  have remainder : value * den % den = 0 := Nat.mul_mod_left value den
  have quotient : value * den / den = value := Nat.mul_div_cancel value positive
  simp [roundHalfEven, remainder, quotient, positive]

/-- For an integer the guess from the bit lengths is exact. -/
theorem floorLog2_one {n : Nat} (nonzero : n ≠ 0) : floorLog2 n 1 = n.log2 := by
  have above : belowPow n 1 n.log2 = false := by
    simp [belowPow, Nat.log2_self_le nonzero]
  have one : Nat.log2 1 = 0 := by decide
  simp only [floorLog2, one, Nat.cast_zero, Int.sub_zero, above]
  rfl

@[simp] theorem scale_natCast (num den k : Nat) : scale num den k = (num, den * 2 ^ k) := by
  simp [scale]

@[simp] theorem scale_neg_natCast (num den k : Nat) : scale num den (-(k : Int)) = (num * 2 ^ k, den) := by
  by_cases zero : k = 0
  · simp [scale, zero]
  · have negative : ¬ (0 : Int) ≤ -(k : Int) := by omega
    rw [scale, if_neg negative, neg_neg, Int.toNat_natCast]

theorem overflows_eq_false {format : Format} {significand : Nat} {exponent : Int}
    (room : 0 ≤ format.maxExponent + 1 - exponent)
    (below : significand < 2 ^ (format.maxExponent + 1 - exponent).toNat) :
    overflows format significand exponent = false := by
  unfold overflows
  rw [if_pos room]
  exact decide_eq_false (Nat.not_le.mpr below)

/-- Truncation undoes a shift to the left. -/
theorem truncate_shifted (negative : Bool) (m shift : Nat) :
    Binary.truncate ⟨negative, m * 2 ^ shift, -(shift : Int)⟩ = if negative then -(m : Int) else m := by
  by_cases zero : shift = 0
  · cases negative <;> simp [Binary.truncate, zero]
  · have right : ¬ (0 : Int) ≤ -(shift : Int) := by omega
    simp only [Binary.truncate, if_neg right, neg_neg, Int.toNat_natCast,
      Nat.mul_div_cancel _ (Nat.two_pow_pos shift)]

/-- When `num / den` over `2 ^ quantum` is a whole `m` that does not overflow, rounding keeps it. -/
theorem round_of_scale_eq (format : Format) (negative : Bool) {num den m d : Nat} (nonzero : num ≠ 0)
    (positive : 0 < d) (scaled : scale num den (quantum format num den) = (m * d, d))
    (fits : overflows format m (quantum format num den) = false) :
    round format negative num den = some ⟨negative, m, quantum format num den⟩ := by
  simp only [round, nonzero, if_false, scaled, roundHalfEven_mul m positive, fits]
  rfl

section Exact

variable {format : Format}

/-- A positive integer whose leading bit is not below the normal range is kept to
`precision - 1` bits below that bit. -/
theorem quantum_one (normal : format.minExponent ≤ 0) {n : Nat} (nonzero : n ≠ 0) :
    quantum format n 1 = n.log2 - (format.precision - 1) := by
  rw [quantum, floorLog2_one nonzero]
  omega

/-- An integer of fewer than `precision` bits is kept whole, its bits shifted up to the top of
the significand. -/
theorem round_of_lt_two_pow (normal : format.minExponent ≤ 0)
    (room : (format.precision : Int) ≤ format.maxExponent + 1) (negative : Bool) {n : Nat}
    (nonzero : n ≠ 0) (small : n < 2 ^ format.precision) :
    round format negative n 1 =
      some ⟨negative, n * 2 ^ (format.precision - 1 - n.log2), -((format.precision - 1 - n.log2 : Nat) : Int)⟩ := by
  have short : n.log2 < format.precision := (Nat.log2_lt nonzero).mpr small
  have exponent : quantum format n 1 = -((format.precision - 1 - n.log2 : Nat) : Int) := by
    rw [quantum_one normal nonzero]
    omega
  have shifted : n * 2 ^ (format.precision - 1 - n.log2) < 2 ^ (format.precision + (format.precision - 1 - n.log2)) := by
    rw [Nat.pow_add]
    exact Nat.mul_lt_mul_of_pos_right small (Nat.two_pow_pos _)
  rw [← exponent]
  apply round_of_scale_eq format negative nonzero Nat.one_pos
  · rw [exponent, scale_neg_natCast, Nat.mul_one]
  · rw [exponent]
    refine overflows_eq_false (by omega) (shifted.trans_le (Nat.pow_le_pow_right Nat.two_pos ?_))
    omega

/-- `2 ^ precision` itself is kept, as half of it times two. -/
theorem round_two_pow (normal : format.minExponent ≤ 0)
    (room : (format.precision : Int) ≤ format.maxExponent) (wide : 1 ≤ format.precision) (negative : Bool) :
    round format negative (2 ^ format.precision) 1 = some ⟨negative, 2 ^ (format.precision - 1), 1⟩ := by
  have nonzero : 2 ^ format.precision ≠ 0 := (Nat.two_pow_pos _).ne'
  have exponent : quantum format (2 ^ format.precision) 1 = 1 := by
    rw [quantum_one normal nonzero, Nat.log2_two_pow]
    omega
  have half : 2 ^ format.precision = 2 ^ (format.precision - 1) * 2 := by
    rw [← Nat.pow_succ]
    congr 1
    omega
  have scaled : scale (2 ^ format.precision) 1 (quantum format (2 ^ format.precision) 1) =
      (2 ^ (format.precision - 1) * 2, 2) := by
    rw [exponent, ← half]
    rfl
  have fits : overflows format (2 ^ (format.precision - 1)) (quantum format (2 ^ format.precision) 1) = false := by
    rw [exponent]
    refine overflows_eq_false (by omega) (Nat.pow_lt_pow_right Nat.one_lt_two ?_)
    omega
  have kept := round_of_scale_eq format negative nonzero Nat.two_pos scaled fits
  rwa [exponent] at kept

/-- Every integer of at most `2 ^ precision` in magnitude rounds to itself, so that its integer
part is the integer again. -/
theorem round_natCast_truncate (normal : format.minExponent ≤ 0)
    (room : (format.precision : Int) ≤ format.maxExponent) (wide : 1 ≤ format.precision) (negative : Bool)
    {n : Nat} (small : n ≤ 2 ^ format.precision) :
    (round format negative n 1).map Binary.truncate = some (if negative then -(n : Int) else n) := by
  by_cases zero : n = 0
  · subst zero
    cases negative <;> simp [round, Binary.truncate]
  rcases small.lt_or_eq with below | top
  · rw [round_of_lt_two_pow normal (by omega) negative zero below, Option.map_some, truncate_shifted]
  · subst top
    rw [round_two_pow normal room wide negative, Option.map_some]
    have whole : 2 ^ (format.precision - 1) * 2 = 2 ^ format.precision := by
      rw [← Nat.pow_succ]
      congr 1
      omega
    cases negative <;> simp [Binary.truncate, whole]

end Exact

end BinaryFloat
