/-
**Numbers of a document.**

A number in a document is a whole number of 64 bits, where it is written as one and fits, and a
double otherwise.  The two kinds never mix: `1` and `1.0` stay what they were and are written as
they were.

Main definitions:

* `WideInt` — a whole number that fits in 64 bits, with a sign or without;
* `Number` — a whole number or a double;
* `Number.toText` — its text.

Main results:

* `WideInt.ofInt?_val` — a whole number in range is found again by its value.
-/

import FieldQuery.Number.Shortest

set_option autoImplicit false

namespace FieldQuery

/-! ### Whole numbers -/

/-- A whole number from `-2 ^ 63` up to `2 ^ 64 - 1`. -/
structure WideInt where
  val : Int
  least_le : -9223372036854775808 ≤ val
  le_greatest : val ≤ 18446744073709551615
deriving DecidableEq, Repr

namespace WideInt

/-- The whole number with a value, where it is in range. -/
def ofInt? (v : Int) : Option WideInt :=
  if h : -9223372036854775808 ≤ v ∧ v ≤ 18446744073709551615 then some ⟨v, h.1, h.2⟩ else none

@[simp] theorem ofInt?_val (n : WideInt) : ofInt? n.val = some n := by
  simp [ofInt?, n.least_le, n.le_greatest]

/-- The decimal text of a whole number. -/
def toText (n : WideInt) : List Char :=
  if n.val < 0 then '-' :: Binary64.decimalDigits n.val.natAbs
  else Binary64.decimalDigits n.val.natAbs

end WideInt

/-! ### Numbers -/

/-- A number of a document. -/
inductive Number where
  | whole (n : WideInt)
  | double (x : Binary64)
deriving DecidableEq, Repr

namespace Number

/-- The text of a number. -/
def toText : Number → List Char
  | whole n => n.toText
  | double x => x.toText

/-- The number is zero, of either kind and sign. -/
def isZero : Number → Bool
  | whole n => n.val == 0
  | double x => x.isZero

end Number

end FieldQuery
