/-
**Numerals.**

A numeral is read in two steps: its parts by the grammar, then its value.  The value of a numeral
with a fraction or an exponent is computed as a fast reader computes it: as many digits as fit in
64 bits make a whole number, the rest only move the point, and one rounded multiplication or
division by a power of ten follows.  The last digit may therefore differ from the correctly rounded
value; what is read is still the same on every machine.

Main definitions:

* `Json.Numeral` — sign, digits of the whole part, digits of the fraction, exponent;
* `Json.Numeral.read?` — the numeral at the start of a text;
* `Json.Numeral.value?` — its value, unless it is out of range;
* `Json.numberOfText?` — the number that a whole text spells.
-/

import FieldQuery.Json.Fault
import FieldQuery.Number.Basic

set_option autoImplicit false

namespace FieldQuery.Json

/-- The parts of a numeral. -/
structure Numeral where
  negative : Bool
  whole : List Nat
  fraction : Option (List Nat)
  exponent : Option Int
deriving DecidableEq, Repr

namespace Numeral

/-! ### Grammar -/

/-- The digits at the start of a text, and what follows them. -/
def digits : List Char → List Nat × List Char
  | [] => ([], [])
  | c :: r =>
    if c.isDigit then
      let (ds, rest) := digits r
      ((c.toNat - 48) :: ds, rest)
    else ([], c :: r)

/-- The number that digits spell. -/
def digitsValue (ds : List Nat) : Nat := ds.foldl (fun n d => 10 * n + d) 0

/-- The digits at the start of a text that must begin with one. -/
def someDigits (cs : List Char) : Except Fault (List Nat × List Char) :=
  match digits cs with
  | ([], rest) => .error ⟨Flaw.at rest, some .malformed⟩
  | r => .ok r

/-- The whole part: no zero stands before another digit. -/
def wholePart (cs : List Char) : Except Fault (List Nat × List Char) := do
  let (ds, rest) ← someDigits cs
  if ds.head? = some 0 ∧ 1 < ds.length then .error (.both .malformed) else .ok (ds, rest)

/-- The fraction, where a point introduces one. -/
def fractionPart : List Char → Except Fault (Option (List Nat) × List Char)
  | '.' :: r => do
    let (ds, rest) ← someDigits r
    .ok (some ds, rest)
  | cs => .ok (none, cs)

/-- The sign of an exponent, where it has one. -/
def exponentSign : List Char → Bool × List Char
  | '+' :: r => (false, r)
  | '-' :: r => (true, r)
  | cs => (false, cs)

/-- The exponent, where a letter introduces one. -/
def exponentPart : List Char → Except Fault (Option Int × List Char)
  | [] => .ok (none, [])
  | c :: r =>
    if c = 'e' ∨ c = 'E' then do
      let (negative, r) := exponentSign r
      let (ds, rest) ← someDigits r
      .ok (some (if negative then -(digitsValue ds : Int) else digitsValue ds), rest)
    else .ok (none, c :: r)

/-- The sign of a numeral. -/
def sign : List Char → Bool × List Char
  | '-' :: r => (true, r)
  | cs => (false, cs)

/-- The numeral at the start of a text, and what follows it. -/
def read? (cs : List Char) : Except Fault (Numeral × List Char) := do
  let (negative, r) := sign cs
  let (whole, r) ← wholePart r
  let (fraction, r) ← fractionPart r
  let (exponent, r) ← exponentPart r
  .ok (⟨negative, whole, fraction, exponent⟩, r)

/-! ### Value -/

/-- The greatest number of 64 bits. -/
def greatestWord : Nat := 18446744073709551615

/-- The digits that fit in 64 bits after `n`, as a number, and the digits that are left. -/
def fill (n : Nat) : List Nat → Nat × List Nat
  | [] => (n, [])
  | d :: r => if 10 * n + d ≤ greatestWord then fill (10 * n + d) r else (n, d :: r)

/-- `m * 10 ^ e` as a magnitude, for an exponent that one power of ten covers; none where it is out
of range. -/
def scaleOnce (m : Fin Binary64.finiteCount) (e : Int) : Option (Fin Binary64.finiteCount) := do
  let power ← Binary64.magnitudeOfDecimal 1 e.natAbs
  if 0 ≤ e then Binary64.mulMagnitude m power else Binary64.divMagnitude m power

/-- `m * 10 ^ e` as a magnitude.  A magnitude far below one is approached in several divisions, and
the third leaves nothing of any significand. -/
def scale (m : Fin Binary64.finiteCount) (e : Int) :
    Nat → Option (Fin Binary64.finiteCount)
  | 0 => some Binary64.zeroMagnitude
  | fuel + 1 =>
    if e.natAbs ≤ 308 then scaleOnce m e
    else if m.val = 0 then some m
    else if 0 < e then none
    else do scale (← scaleOnce m (-308)) (e + 308) fuel

/-- A double with the value `significand * 10 ^ e`. -/
def doubleOf (negative : Bool) (significand : Nat) (e : Int) : Option Number := do
  let m ← Binary64.magnitudeOfNat significand
  return .double ⟨negative, ← scale m e 4⟩

/-- The value of a whole numeral that fits in 64 bits. -/
def wholeValue (negative : Bool) (n : Nat) : Option Number :=
  if negative then
    if n = 0 then doubleOf true 0 0
    else
      match WideInt.ofInt? (-n) with
      | some v => some (.whole v)
      | none => doubleOf true n 0
  else (WideInt.ofInt? n).map .whole

/-- The value of a numeral; none where it is out of range. -/
def value? (x : Numeral) : Option Number :=
  let (n, unread) := fill 0 x.whole
  match x.fraction, x.exponent with
  | none, none =>
    if unread.isEmpty then wholeValue x.negative n else doubleOf x.negative n unread.length
  | fraction, exponent =>
    let places := fraction.getD []
    let (m, dropped) := fill n places
    let taken := places.length - dropped.length
    doubleOf x.negative m (exponent.getD 0 + unread.length - taken)

end Numeral

/-- The number that a whole text spells. -/
def numberOfText? (cs : List Char) : Option Number :=
  match Numeral.read? cs with
  | .ok (x, []) => x.value?
  | _ => none

end FieldQuery.Json
