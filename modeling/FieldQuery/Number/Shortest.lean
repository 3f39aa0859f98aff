/-
**The shortest text of a double.**

A double is written with the fewest digits that still name it and no other double.  Every real
number between the two half-way points around a double rounds to it; so the task is to find, for
one, two, … digits, a decimal inside that interval.  On each decimal grid only the two neighbours
of the value can be the nearest grid point inside, and both are tested with whole numbers.

Main definitions:

* `Binary64.Interval` — the numbers that round to a double, over a common denominator;
* `Binary64.leadingPlace` — the decimal place of the first digit;
* `Binary64.decimalOnGrid` — the best decimal with a given last place, where one rounds back;
* `Binary64.shortestDecimal` — digits and place of the shortest decimal;
* `Binary64.toText` — the text: positional from `0.00001` up to sixteen digits, else scientific.

Main results:

* `Binary64.decimalOnGrid_inside` — a decimal found on a grid lies in the interval.
-/

import FieldQuery.Number.Binary64

set_option autoImplicit false

namespace FieldQuery.Binary64

/-! ### The numbers that round to a double -/

/-- Least, middle and greatest number of an interval as numerators over one denominator; `closed`
says whether the ends belong to it. -/
structure Interval where
  least : Nat
  middle : Nat
  greatest : Nat
  denominator : Nat
  closed : Bool
deriving DecidableEq, Repr

/-- The numbers that round to a magnitude.  The gap below is half as wide at a power of two, and
the ends round to the magnitude where its significand is even. -/
def interval (magnitude : Nat) : Interval :=
  let m := significandOf magnitude
  let e := exponentOf magnitude - 2
  let below := if magnitude % binade = 0 ∧ binade < magnitude then 1 else 2
  let up := Nat.pow 2 e.toNat
  ⟨(4 * m - below) * up, 4 * m * up, (4 * m + 2) * up, Nat.pow 2 (-e).toNat, m % 2 = 0⟩

/-- The fraction `a / b` lies in the interval. -/
def Interval.contains (i : Interval) (a b : Nat) : Bool :=
  if i.closed then i.least * b ≤ a * i.denominator && a * i.denominator ≤ i.greatest * b
  else i.least * b < a * i.denominator && a * i.denominator < i.greatest * b

/-! ### Decimals on a grid -/

/-- The fraction `digits * 10 ^ place`. -/
def decimalFraction (digits : Nat) (place : Int) : Nat × Nat :=
  (digits * Nat.pow 10 place.toNat, Nat.pow 10 (-place).toNat)

/-- The decimal place of the first digit of a positive fraction. -/
def leadingPlace (num den : Nat) : Int :=
  let guess := log2Ratio num den * 30103 / 100000
  let atLeast (p : Int) : Bool :=
    let (a, b) := decimalFraction 1 p
    a * den ≤ num * b
  if !atLeast guess then guess - 1 else if atLeast (guess + 1) then guess + 1 else guess

/-- The decimal with last place `place` that is in the interval and nearest to its middle, the even
one of two equally near. -/
def decimalOnGrid (i : Interval) (place : Int) : Option Nat :=
  let (a, b) := decimalFraction 1 place
  let num := i.middle * b
  let den := i.denominator * a
  let low := num / den
  let inside (d : Nat) : Bool := i.contains (d * a) b
  match inside low, inside (low + 1) with
  | true, true => some (roundDiv num den)
  | true, false => some low
  | false, true => some (low + 1)
  | false, false => none

/-- A rounded quotient is one of the two neighbours. -/
theorem roundDiv_eq (a b : Nat) : roundDiv a b = a / b ∨ roundDiv a b = a / b + 1 := by
  unfold roundDiv
  simp only
  split
  · exact .inl rfl
  · split
    · exact .inr rfl
    · split
      · exact .inl rfl
      · exact .inr rfl

/-- A decimal found on a grid rounds back. -/
theorem decimalOnGrid_inside {i : Interval} {place : Int} {d : Nat}
    (h : decimalOnGrid i place = some d) :
    i.contains (d * (decimalFraction 1 place).1) (decimalFraction 1 place).2 = true := by
  unfold decimalOnGrid at h
  simp only at h
  split at h
  · rename_i h₁ h₂
    obtain rfl := Option.some.inj h
    rcases roundDiv_eq (i.middle * (decimalFraction 1 place).2)
      (i.denominator * (decimalFraction 1 place).1) with e | e <;> rw [e] <;> assumption
  · obtain rfl := Option.some.inj h
    assumption
  · obtain rfl := Option.some.inj h
    assumption
  · exact absurd h (by simp)

/-- The first decimal found on finer and finer grids. -/
def firstOnGrids (i : Interval) (place : Int) : Nat → Option (Nat × Int)
  | 0 => none
  | grids + 1 =>
    match decimalOnGrid i place with
    | some d => some (d, place)
    | none => firstOnGrids i (place - 1) grids

/-- A decimal without trailing zeros. -/
def withoutZeros (digits : Nat) (place : Int) : Nat → Nat × Int
  | 0 => (digits, place)
  | fuel + 1 =>
    if digits % 10 = 0 then withoutZeros (digits / 10) (place + 1) fuel else (digits, place)

/-- Digits and place of the shortest decimal that rounds to a positive magnitude.  Seventeen digits
always suffice. -/
def shortestDecimal (magnitude : Nat) : Nat × Int :=
  let i := interval magnitude
  match firstOnGrids i (leadingPlace i.middle i.denominator) 17 with
  | some (d, place) => withoutZeros d place 17
  | none => (0, 0)

/-! ### The text -/

/-- The decimal digits of a natural number. -/
def decimalDigits (n : Nat) : List Char := Nat.toDigits 10 n

/-- A decimal in positional notation, always with a point: `first` is the place of its first
digit. -/
def positional (digits : List Char) (first : Int) : List Char :=
  if first < 0 then
    ['0', '.'] ++ List.replicate (-first - 1).toNat '0' ++ digits
  else
    let whole := first.toNat + 1
    if digits.length ≤ whole then
      digits ++ List.replicate (whole - digits.length) '0' ++ ['.', '0']
    else digits.take whole ++ '.' :: digits.drop whole

/-- A decimal in scientific notation: one digit before the point, and an exponent with its sign. -/
def scientific (digits : List Char) (first : Int) : List Char :=
  let fraction := match digits.drop 1 with
    | [] => []
    | r => '.' :: r
  digits.take 1 ++ fraction ++ ['e', if first < 0 then '-' else '+'] ++ decimalDigits first.natAbs

/-- The text of a positive magnitude. -/
def magnitudeText (magnitude : Nat) : List Char :=
  let (d, place) := shortestDecimal magnitude
  let digits := decimalDigits d
  let first := place + digits.length - 1
  if -5 ≤ first ∧ first ≤ 15 then positional digits first else scientific digits first

/-- The shortest text that names a double. -/
def toText (x : Binary64) : List Char :=
  let sign := if x.negative then ['-'] else []
  sign ++ if x.isZero then ['0', '.', '0'] else magnitudeText x.magnitude

end FieldQuery.Binary64
