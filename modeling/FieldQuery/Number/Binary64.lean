/-
**Finite double-precision numbers.**

A number with a fraction is held in the 64-bit binary format.  Only the finite values are needed,
and all arithmetic on them here is a single correctly rounded operation, so a value is kept as its
sign and its *magnitude*: the position of its absolute value among the finite values in increasing
order.  Counting positions instead of splitting fields makes rounding up to the next binade no
special case.

Main definitions:

* `Binary64` — sign and magnitude;
* `Binary64.significand`, `Binary64.exponent` — the value is `± significand * 2 ^ exponent`;
* `Binary64.roundDiv` — a quotient rounded to the nearest integer, ties to even;
* `Binary64.magnitudeOfRatio` — the magnitude nearest to a ratio of natural numbers;
* `Binary64.magnitudeOfDecimal` — the magnitude nearest to `digits * 10 ^ e`;
* `Binary64.mulMagnitude`, `Binary64.divMagnitude` — rounded product and quotient.

Main results:

* `Binary64.roundDiv_le`, `Binary64.le_roundDiv` — rounding is off by at most one half.
-/

set_option autoImplicit false

namespace FieldQuery

/-- The number of finite magnitudes, `2047 * 2 ^ 52`. -/
def Binary64.finiteCount : Nat := 9218868437227405312

/-- A finite double-precision number: its sign, and the position of its absolute value among the
finite absolute values. -/
structure Binary64 where
  negative : Bool
  magnitude : Fin Binary64.finiteCount
deriving DecidableEq, Repr

namespace Binary64

/-! ### Significand and exponent -/

/-- The number of magnitudes that share an exponent, `2 ^ 52`. -/
def binade : Nat := 4503599627370496

/-- The integer `m` with absolute value `m * 2 ^ exponent`. -/
def significandOf (magnitude : Nat) : Nat :=
  if magnitude / binade = 0 then magnitude else binade + magnitude % binade

/-- The exponent that goes with `significandOf`. -/
def exponentOf (magnitude : Nat) : Int :=
  if magnitude / binade = 0 then -1074 else (magnitude / binade : Nat) - 1075

/-- The significand of a number. -/
def significand (x : Binary64) : Nat := significandOf x.magnitude

/-- The exponent of a number. -/
def exponent (x : Binary64) : Int := exponentOf x.magnitude

/-- Zero, with either sign. -/
def isZero (x : Binary64) : Bool := x.magnitude.val == 0

/-! ### Rounding -/

/-- `a / b` rounded to the nearest integer, a tie to the even one. -/
def roundDiv (a b : Nat) : Nat :=
  let q := a / b
  let r := a % b
  if 2 * r < b then q
  else if b < 2 * r then q + 1
  else if q % 2 = 0 then q else q + 1

theorem roundDiv_le (a : Nat) {b : Nat} (hb : 0 < b) : 2 * (roundDiv a b * b) ≤ 2 * a + b := by
  have h := Nat.div_add_mod a b
  have hm := Nat.mod_lt a hb
  unfold roundDiv
  simp only
  have e₁ : a / b * b = b * (a / b) := Nat.mul_comm _ _
  have e₂ : (a / b + 1) * b = b * (a / b) + b := by rw [Nat.add_mul, Nat.one_mul, e₁]
  split
  · omega
  · split
    · omega
    · split <;> omega

theorem le_roundDiv (a : Nat) {b : Nat} (hb : 0 < b) : 2 * a ≤ 2 * (roundDiv a b * b) + b := by
  have h := Nat.div_add_mod a b
  have hm := Nat.mod_lt a hb
  unfold roundDiv
  simp only
  have e₁ : a / b * b = b * (a / b) := Nat.mul_comm _ _
  have e₂ : (a / b + 1) * b = b * (a / b) + b := by rw [Nat.add_mul, Nat.one_mul, e₁]
  split
  · omega
  · split
    · omega
    · split <;> omega

/-- The fraction `num / (den * 2 ^ e)` as numerator and denominator. -/
def scaled (num den : Nat) (e : Int) : Nat × Nat :=
  if 0 ≤ e then (num, den * Nat.pow 2 e.toNat) else (num * Nat.pow 2 (-e).toNat, den)

/-- The greatest `e` with `2 ^ e ≤ num / den`, for a positive ratio. -/
def log2Ratio (num den : Nat) : Int :=
  let e : Int := (num.log2 : Int) - den.log2
  let (a, b) := scaled num den e
  if a < b then e - 1 else e

/-- The magnitude at position `n`, where there is one. -/
def magnitudeAt (n : Nat) : Option (Fin finiteCount) :=
  if h : n < finiteCount then some ⟨n, h⟩ else none

/-- The magnitude of zero. -/
def zeroMagnitude : Fin finiteCount := ⟨0, by decide⟩

/-- The magnitude nearest to `num / den`, ties to the even significand; none where the ratio
rounds beyond the greatest finite value. -/
def magnitudeOfRatio (num den : Nat) : Option (Fin finiteCount) :=
  if num = 0 then some zeroMagnitude
  else
    let e := max (log2Ratio num den - 52) (-1074)
    let (a, b) := scaled num den e
    magnitudeAt ((e + 1074).toNat * binade + roundDiv a b)

/-- The magnitude nearest to a natural number. -/
def magnitudeOfNat (n : Nat) : Option (Fin finiteCount) := magnitudeOfRatio n 1

/-- The magnitude nearest to `digits * 10 ^ e`.  Exponents far outside the finite range are settled
without computing the power. -/
def magnitudeOfDecimal (digits : Nat) (e : Int) : Option (Fin finiteCount) :=
  let places : Int := (Nat.toDigits 10 digits).length
  if digits = 0 then some zeroMagnitude
  else if 400 < e + places then none
  else if e + places < -400 then some zeroMagnitude
  else if 0 ≤ e then magnitudeOfRatio (digits * Nat.pow 10 e.toNat) 1
  else magnitudeOfRatio digits (Nat.pow 10 (-e).toNat)

/-! ### Products and quotients -/

/-- The rounded product of two magnitudes; none where it overflows. -/
def mulMagnitude (a b : Fin finiteCount) : Option (Fin finiteCount) :=
  let e := exponentOf a + exponentOf b
  let (x, y) := scaled (significandOf a * significandOf b) 1 (-e)
  magnitudeOfRatio x y

/-- The rounded quotient of two magnitudes, the second not zero; none where it overflows. -/
def divMagnitude (a b : Fin finiteCount) : Option (Fin finiteCount) :=
  let e := exponentOf a - exponentOf b
  let (x, y) := scaled (significandOf a) (significandOf b) (-e)
  magnitudeOfRatio x y

end Binary64

end FieldQuery
