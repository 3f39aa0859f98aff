/-
**Bytes in sixty-four characters.**

Three bytes are written as four characters of six bits each.  One or two bytes that are left at the
end are filled up with nought bits, and equals signs stand for the characters that are missing.

Main definitions:

* `Text.base64Digit` — the character of six bits;
* `Text.base64` — bytes as characters.
-/

set_option autoImplicit false

namespace FieldQuery.Text

/-- The character of six bits. -/
def base64Digit (n : Nat) : Char :=
  if n < 26 then Char.ofNat (65 + n)
  else if n < 52 then Char.ofNat (71 + n)
  else if n < 62 then Char.ofNat (n - 4)
  else if n = 62 then '+'
  else '/'

/-- The four characters of twenty-four bits. -/
def base64Digits (n : Nat) : List Char :=
  [base64Digit (n / 262144), base64Digit (n / 4096 % 64), base64Digit (n / 64 % 64),
    base64Digit (n % 64)]

/-- Bytes as characters. -/
def base64 : List UInt8 → List Char
  | [] => []
  | [a] => (base64Digits (a.toNat * 65536)).take 2 ++ ['=', '=']
  | [a, b] => (base64Digits (a.toNat * 65536 + b.toNat * 256)).take 3 ++ ['=']
  | a :: b :: c :: r => base64Digits (a.toNat * 65536 + b.toNat * 256 + c.toNat) ++ base64 r

example : base64 [0x6B, 0x65, 0x79, 0x3A] = ['a', '2', 'V', '5', 'O', 'g', '=', '='] := by decide

end FieldQuery.Text
