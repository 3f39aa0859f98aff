/-
**What a scalar stands for.**

A plain scalar that looks like a null, a boolean or a number is one; everything else is a string.
Nulls and booleans have one spelling each, numbers have several.  A tag decides in place of the
looks.

Main definitions:

* `Yaml.integer?` — the integer that a text spells, of any size;
* `Yaml.decimal?` — the double that a text spells;
* `Yaml.plainValue?` — what a plain scalar stands for;
* `Yaml.Scalar.value?` — what a scalar stands for.
-/

import FieldQuery.Yaml.Node
import FieldQuery.Json.Basic

set_option autoImplicit false

namespace FieldQuery.Yaml

/-! ### Integers -/

/-- The base that begins a text, and what follows it. -/
def base? : List Char → Option (Nat × List Char)
  | '0' :: 'x' :: r => some (16, r)
  | '0' :: 'o' :: r => some (8, r)
  | '0' :: 'b' :: r => some (2, r)
  | _ => none

/-- Several decimal digits of which the first is a nought, after a sign if there is one. -/
def hasLeadingZero (cs : List Char) : Bool :=
  let cs := match cs with
    | '+' :: r => r
    | '-' :: r => r
    | cs => cs
  match cs with
  | '0' :: d :: r => (d :: r).all Char.isDigit
  | _ => false

/-- The natural number after a sign: in another base, or in decimal without leading noughts. -/
def unsigned? (cs : List Char) : Option Nat :=
  match base? cs with
  | some (base, digits) => Text.natural? base digits
  | none => Text.natural? 10 cs

/-- The integer that a text spells. -/
def integer? (cs : List Char) : Option Int :=
  if hasLeadingZero cs then none
  else
    match cs with
    | '+' :: r => (unsigned? r).map Int.ofNat
    | '-' :: r => (unsigned? r).map fun n => -(n : Int)
    | cs => (unsigned? cs).map Int.ofNat

/-! ### Doubles -/

/-- The digits of a text and what follows them. -/
def digits (cs : List Char) : List Char × List Char := cs.span Char.isDigit

/-- The number that decimal digits spell, nought where there are none. -/
def digitsValue (cs : List Char) : Nat := (Text.natural? 10 cs).getD 0

/-- The exponent at the end of a decimal, nought where there is none. -/
def exponent? : List Char → Option Int
  | [] => some 0
  | c :: r =>
    if c = 'e' ∨ c = 'E' then
      let (negative, r) := match r with
        | '+' :: r => (false, r)
        | '-' :: r => (true, r)
        | r => (false, r)
      (Text.natural? 10 r).map fun n => if negative then -(n : Int) else n
    else none

/-- The digits and the exponent of a decimal without a sign; at least one digit stands before or
after the point. -/
def decimalParts? (cs : List Char) : Option (Nat × Int) :=
  let (whole, r) := digits cs
  let (fraction, r) := match r with
    | '.' :: r => digits r
    | r => ([], r)
  if whole.isEmpty && fraction.isEmpty then none
  else (exponent? r).map fun e => (digitsValue (whole ++ fraction), e - fraction.length)

/-- A decimal that rounds to a double, or is too great for one. -/
inductive Magnitude where
  | finite (m : Fin Binary64.finiteCount)
  | tooGreat

/-- The double that a decimal without a sign spells, rounded to the nearest. -/
def magnitude? (cs : List Char) : Option Magnitude :=
  (decimalParts? cs).map fun (n, e) =>
    match Binary64.magnitudeOfDecimal n e with
    | some m => .finite m
    | none => .tooGreat

/-- The double that a decimal spells, with its sign. -/
def decimal? (cs : List Char) : Option (Bool × Magnitude) :=
  match cs with
  | '+' :: r => (magnitude? r).map fun m => (false, m)
  | '-' :: r => (magnitude? r).map fun m => (true, m)
  | cs => (magnitude? cs).map fun m => (false, m)

/-- Spellings of the infinite value, after the sign. -/
def infinities : List String := [".inf", ".Inf", ".INF"]

/-- Spellings of what is no number. -/
def notNumbers : List String := [".nan", ".NaN", ".NAN"]

/-- A text that spells a value that no document can hold. -/
def isNonFinite (text : String) : Bool :=
  infinities.contains text || infinities.any (fun t => text == "+" ++ t || text == "-" ++ t) ||
    notNumbers.contains text

/-! ### Plain scalars -/

/-- The least integer of 128 bits with a sign, `-2 ^ 127`. -/
def leastLong : Int := -170141183460469231731687303715884105728

/-- The greatest integer of 128 bits without a sign, `2 ^ 128 - 1`. -/
def greatestLong : Int := 340282366920938463463374607431768211455

/-- The least integer of 64 bits with a sign, `-2 ^ 63`. -/
def leastSigned : Int := -9223372036854775808

/-- The greatest integer of 64 bits with a sign, `2 ^ 63 - 1`. -/
def greatestSigned : Int := 9223372036854775807

/-- An integer as a value; one of more than 64 bits cannot be held, and one of more than 128 is
taken for a double. -/
def integerValue? (v : Int) : Option (Option Json) :=
  match WideInt.ofInt? v with
  | some n => some (some (.number (.whole n)))
  | none => if leastLong ≤ v ∧ v ≤ greatestLong then some none else none

/-- What a text that spells no integer of up to 128 bits stands for. -/
def looseValue (text : String) : Json :=
  if isNonFinite text then .null
  else if hasLeadingZero text.toList then .string text
  else
    match decimal? text.toList with
    | some (negative, .finite m) => .number (.double ⟨negative, m⟩)
    | _ => .string text

/-- What a plain scalar stands for; nothing, where it stands for an integer that cannot be held. -/
def plainValue? (text : String) : Option Json :=
  if text = "~" ∨ text = "null" then some .null
  else if text = "true" then some (.bool true)
  else if text = "false" then some (.bool false)
  else
    match (integer? text.toList).bind integerValue? with
    | some v => v
    | none => some (looseValue text)

/-! ### Tags -/

/-- An integer of 64 bits with a sign, in decimal. -/
def signedValue? (text : String) : Option Json := do
  let v ← match text.toList with
    | '+' :: r => (Text.natural? 10 r).map Int.ofNat
    | '-' :: r => (Text.natural? 10 r).map fun n => -(n : Int)
    | cs => (Text.natural? 10 cs).map Int.ofNat
  if leastSigned ≤ v ∧ v ≤ greatestSigned then
    (WideInt.ofInt? v).map fun n => .number (.whole n)
  else none

/-- A double; the values that no document can hold become null. -/
def doubleValue? (text : String) : Option Json :=
  let unsigned := match text.toList with
    | '+' :: r => r
    | '-' :: r => r
    | cs => cs
  let word := String.ofList (unsigned.map Char.toLower)
  if word = "inf" ∨ word = "infinity" ∨ word = "nan" then some .null
  else
    (decimal? text.toList).map fun
      | (negative, .finite m) => .number (.double ⟨negative, m⟩)
      | (_, .tooGreat) => .null

/-- What a scalar with a tag of the standard kinds stands for. -/
def taggedValue? (suffix : List Char) (text : String) : Option Json :=
  if suffix = ['b', 'o', 'o', 'l'] then
    if text = "true" then some (.bool true)
    else if text = "false" then some (.bool false)
    else none
  else if suffix = ['i', 'n', 't'] then signedValue? text
  else if suffix = ['f', 'l', 'o', 'a', 't'] then doubleValue? text
  else if suffix = ['n', 'u', 'l', 'l'] then
    if text = "~" ∨ text = "null" then some .null else none
  else some (.string text)

/-- What a scalar stands for; nothing, where it cannot be held or does not fit its tag. -/
def Scalar.value? (s : Scalar) : Option Json :=
  match s.tag with
  | some tag =>
    if tag.handle = ['!', '!'] then taggedValue? tag.suffix s.text else some (.string s.text)
  | none => if s.plain then plainValue? s.text else some (.string s.text)

end FieldQuery.Yaml
