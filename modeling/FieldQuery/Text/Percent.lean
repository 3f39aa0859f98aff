/-
**Characters written as their bytes.**

Where a character has no place in an address, its UTF-8 bytes are written instead, each as a percent
sign and two hexadecimal digits.  Form values are written in the same way, with a plus sign for a
blank.

Main definitions:

* `Text.percentByte` — a byte as a percent sign and two digits;
* `Text.percentUnless` — a text in which only some characters stand for themselves;
* `Text.percentBytes` — the bytes that a text stands for;
* `Text.formEncode`, `Text.formPairs` — a form value, and named values in a row.

Main results:

* `Text.percentBytes_percentChar` — what was written for a character stands for its bytes;
* `Text.formPairs_singleton` — one named value.
-/

import FieldQuery.Text.Digits

set_option autoImplicit false

namespace FieldQuery.Text

/-! ### Percent signs -/

/-- A byte as a percent sign and two digits. -/
def percentByte (b : UInt8) : List Char :=
  ['%', upperHexDigit (b.toNat / 16), upperHexDigit (b.toNat % 16)]

/-- A character as its bytes. -/
def percentChar (c : Char) : List Char := (String.utf8EncodeChar c).flatMap percentByte

/-- A text in which only the characters that `keeps` names stand for themselves. -/
def percentUnless (keeps : Char → Bool) (cs : List Char) : List Char :=
  cs.flatMap fun c => if keeps c then [c] else percentChar c

/-- The bytes that a text stands for: a percent sign with two digits is one byte, and every other
character is its own bytes. -/
def percentBytes : List Char → List UInt8
  | [] => []
  | '%' :: a :: b :: r =>
    match hexValue? a, hexValue? b with
    | some x, some y => UInt8.ofNat (16 * x + y) :: percentBytes r
    | _, _ => String.utf8EncodeChar '%' ++ percentBytes (a :: b :: r)
  | c :: r => String.utf8EncodeChar c ++ percentBytes r

theorem percentBytes_percent {a b : Char} {x y : Nat} (ha : hexValue? a = some x)
    (hb : hexValue? b = some y) (r : List Char) :
    percentBytes ('%' :: a :: b :: r) = UInt8.ofNat (16 * x + y) :: percentBytes r := by
  rw [percentBytes, ha, hb]

theorem percentBytes_cons {c : Char} (h : c ≠ '%') (r : List Char) :
    percentBytes (c :: r) = String.utf8EncodeChar c ++ percentBytes r := by
  rw [percentBytes]
  intro a b r' e
  exact absurd e h

/-- A byte that was written is read. -/
theorem percentBytes_percentByte (b : UInt8) (r : List Char) :
    percentBytes (percentByte b ++ r) = b :: percentBytes r := by
  have hb : b.toNat < 256 := b.toNat_lt
  have hhigh : hexValue? (upperHexDigit (b.toNat / 16)) = some (b.toNat / 16) :=
    hexValue?_upperHexDigit (by omega)
  have hlow : hexValue? (upperHexDigit (b.toNat % 16)) = some (b.toNat % 16) :=
    hexValue?_upperHexDigit (by omega)
  have hsum : 16 * (b.toNat / 16) + b.toNat % 16 = b.toNat := by omega
  change percentBytes ('%' :: _ :: _ :: r) = _
  rw [percentBytes_percent hhigh hlow, hsum, UInt8.ofNat_toNat]

/-- A character that was written as its bytes is read as them. -/
theorem percentBytes_percentChar (c : Char) (r : List Char) :
    percentBytes (percentChar c ++ r) = String.utf8EncodeChar c ++ percentBytes r := by
  unfold percentChar
  induction String.utf8EncodeChar c with
  | nil => rfl
  | cons b bs ih =>
    rw [List.flatMap_cons, List.append_assoc, percentBytes_percentByte, ih, List.cons_append]

/-! ### Forms -/

/-- A character that stands for itself in a form. -/
def isPlainInForm (c : Char) : Bool := c.isAlphanum || c = '*' || c = '-' || c = '.' || c = '_'

/-- A character in a form. -/
def formChar (c : Char) : List Char :=
  if c = ' ' then ['+'] else if isPlainInForm c then [c] else percentChar c

/-- A value in a form. -/
def formEncode (cs : List Char) : List Char := cs.flatMap formChar

/-- A named value in a form. -/
def formPair (p : String × String) : List Char :=
  formEncode p.1.toList ++ '=' :: formEncode p.2.toList

/-- Named values in a row. -/
def formPairs (ps : List (String × String)) : List Char :=
  List.intercalate ['&'] (ps.map formPair)

theorem formPairs_singleton (p : String × String) : formPairs [p] = formPair p := by
  simp [formPairs, List.intercalate]

end FieldQuery.Text
