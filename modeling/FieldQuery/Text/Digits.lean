/-
**Digits.**

Numbers are spelt in several bases: in ten by numerals, in sixteen by escapes, and in others where
a text says so.  A hexadecimal digit may be a letter of either case where it is read; where it is
written, the case is decided by whoever writes.

Main definitions:

* `Text.hexValue?` — the value of a hexadecimal digit;
* `Text.lowerHexDigit`, `Text.upperHexDigit` — the digit of a number below sixteen;
* `Text.natural?` — the number that digits of a base spell.

Main results:

* `Text.hexValue?_upperHexDigit` — a digit that was written has the value it was written for.
-/

set_option autoImplicit false

namespace FieldQuery.Text

/-! ### Hexadecimal digits -/

/-- The value of a hexadecimal digit. -/
def hexValue? (c : Char) : Option Nat :=
  if '0' ≤ c ∧ c ≤ '9' then some (c.toNat - 48)
  else if 'a' ≤ c ∧ c ≤ 'f' then some (c.toNat - 87)
  else if 'A' ≤ c ∧ c ≤ 'F' then some (c.toNat - 55)
  else none

/-- The hexadecimal digit of a number below sixteen, a letter in lower case. -/
def lowerHexDigit (n : Nat) : Char := Char.ofNat (if n < 10 then 48 + n else 87 + n)

/-- The hexadecimal digit of a number below sixteen, a letter in upper case. -/
def upperHexDigit (n : Nat) : Char := Char.ofNat (if n < 10 then 48 + n else 55 + n)

/-- A digit that was written has the value it was written for. -/
theorem hexValue?_upperHexDigit {n : Nat} (h : n < 16) : hexValue? (upperHexDigit n) = some n := by
  revert n
  decide

/-! ### Numbers -/

/-- The value of a digit in a base up to sixteen. -/
def digitValue? (base : Nat) (c : Char) : Option Nat :=
  (hexValue? c).filter fun v => v < base

/-- The number that digits spell after a number of which they continue the digits. -/
def naturalFrom? (base : Nat) : Nat → List Char → Option Nat
  | n, [] => some n
  | n, c :: r =>
    match digitValue? base c with
    | some v => naturalFrom? base (base * n + v) r
    | none => none

/-- The number that digits spell; there must be one. -/
def natural? (base : Nat) : List Char → Option Nat
  | [] => none
  | c :: r => naturalFrom? base 0 (c :: r)

end FieldQuery.Text
