/-
**From bytes to text.**

A reply arrives as bytes.  Its text is found in the way a browser finds it: a byte order mark at
the front decides the encoding and is not part of the text, and without one the bytes are UTF-8.
Bytes that are no text are not an error; each longest run that begins a character without
finishing it becomes one replacement character.

Main definitions:

* `Text.Utf8State`, `Text.Utf8State.begin` — how far into a character the reader is, and what a
  first byte starts;
* `Text.decodeUtf8`, `Text.utf8?` — UTF-8 with replacement, and without;
* `Text.decodeUnits` — sixteen-bit units with replacement of unpaired surrogates;
* `Text.decode` — the text of a sequence of bytes.
-/

set_option autoImplicit false

namespace FieldQuery.Text

/-- What stands for bytes that are no text. -/
def replacement : Char := '\uFFFD'

/-! ### UTF-8 -/

/-- How far into a character the reader is: the bytes still owed, the bits collected, and the
least and greatest value of the next byte. -/
structure Utf8State where
  owed : Nat
  bits : Nat
  least : Nat
  greatest : Nat
deriving DecidableEq, Repr

/-- Between two characters. -/
def Utf8State.between : Utf8State := ⟨0, 0, 0x80, 0xBF⟩

/-- What a byte does between two characters: the characters it finishes and the state after it. -/
def Utf8State.begin (b : UInt8) : List Char × Utf8State :=
  let n := b.toNat
  if n < 0x80 then ([Char.ofNat n], between)
  else if 0xC2 ≤ n ∧ n ≤ 0xDF then ([], ⟨1, n - 0xC0, 0x80, 0xBF⟩)
  else if n = 0xE0 then ([], ⟨2, 0, 0xA0, 0xBF⟩)
  else if n = 0xED then ([], ⟨2, 0xD, 0x80, 0x9F⟩)
  else if 0xE1 ≤ n ∧ n ≤ 0xEF then ([], ⟨2, n - 0xE0, 0x80, 0xBF⟩)
  else if n = 0xF0 then ([], ⟨3, 0, 0x90, 0xBF⟩)
  else if 0xF1 ≤ n ∧ n ≤ 0xF3 then ([], ⟨3, n - 0xF0, 0x80, 0xBF⟩)
  else if n = 0xF4 then ([], ⟨3, 4, 0x80, 0x8F⟩)
  else ([replacement], between)

/-- The characters of the bytes that follow `state`. -/
def decodeUtf8From : Utf8State → List UInt8 → List Char
  | s, [] => if s.owed = 0 then [] else [replacement]
  | s, b :: r =>
    if s.owed = 0 then
      let (cs, s') := Utf8State.begin b
      cs ++ decodeUtf8From s' r
    else if s.least ≤ b.toNat ∧ b.toNat ≤ s.greatest then
      let bits := s.bits * 64 + (b.toNat - 0x80)
      if s.owed = 1 then Char.ofNat bits :: decodeUtf8From .between r
      else decodeUtf8From ⟨s.owed - 1, bits, 0x80, 0xBF⟩ r
    else
      let (cs, s') := Utf8State.begin b
      replacement :: cs ++ decodeUtf8From s' r

/-- The text of UTF-8 bytes, with replacement characters for what is no text. -/
def decodeUtf8 (bytes : List UInt8) : List Char := decodeUtf8From .between bytes

/-- The text of bytes that are UTF-8, and nothing for others. -/
def utf8? (bytes : List UInt8) : Option String :=
  let cs := decodeUtf8 bytes
  if cs.flatMap String.utf8EncodeChar = bytes then some (String.ofList cs) else none

/-! ### Sixteen-bit units -/

/-- The units of bytes taken in pairs; `low` says that the low byte of a pair comes first, and a
last byte without a partner is no unit. -/
def units (low : Bool) : List UInt8 → List (Option Nat)
  | [] => []
  | [_] => [none]
  | a :: b :: r =>
    some (if low then a.toNat + 256 * b.toNat else 256 * a.toNat + b.toNat) :: units low r

/-- The characters of sixteen-bit units, with a replacement for each surrogate without a
partner. -/
def decodeUnits : List (Option Nat) → List Char
  | [] => []
  | none :: r => replacement :: decodeUnits r
  | some u :: r =>
    if 0xD800 ≤ u ∧ u ≤ 0xDBFF then
      match r with
      | some v :: r' =>
        if 0xDC00 ≤ v ∧ v ≤ 0xDFFF then
          Char.ofNat (0x10000 + (u - 0xD800) * 0x400 + (v - 0xDC00)) :: decodeUnits r'
        else replacement :: decodeUnits (some v :: r')
      | r => replacement :: decodeUnits r
    else if 0xDC00 ≤ u ∧ u ≤ 0xDFFF then replacement :: decodeUnits r
    else Char.ofNat u :: decodeUnits r
termination_by us => us.length

/-! ### The byte order mark -/

/-- The text of a sequence of bytes, in the encoding that its byte order mark names. -/
def decode : List UInt8 → List Char
  | 0xEF :: 0xBB :: 0xBF :: r => decodeUtf8 r
  | 0xFF :: 0xFE :: r => decodeUnits (units true r)
  | 0xFE :: 0xFF :: r => decodeUnits (units false r)
  | bytes => decodeUtf8 bytes

end FieldQuery.Text
