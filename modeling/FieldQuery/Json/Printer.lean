/-
**Documents as text.**

A document is written without blanks where a machine reads it, and over several lines, with two
blanks for each level, where a person does.  In a string only the quote, the backslash and the
controls below the space are escaped; every other character stands for itself.

Main definitions:

* `Json.escapedChar`, `Json.quote` — a character in a string, and a string with its quotes;
* `Json.compact` — the text without blanks;
* `Json.pretty` — the text over several lines.

Main results:

* `Json.escapedChar_of_plain` — a character that needs no escape stands for itself.
-/

import FieldQuery.Json.Basic
import FieldQuery.Text.Digits

set_option autoImplicit false

namespace FieldQuery.Json

/-! ### Strings -/

/-- A character as it stands in a string. -/
def escapedChar (c : Char) : List Char :=
  if c = '"' then ['\\', '"']
  else if c = '\\' then ['\\', '\\']
  else if c = '\x08' then ['\\', 'b']
  else if c = '\x0c' then ['\\', 'f']
  else if c = '\n' then ['\\', 'n']
  else if c = '\r' then ['\\', 'r']
  else if c = '\t' then ['\\', 't']
  else if c.toNat < 0x20 then
    ['\\', 'u', '0', '0', Text.lowerHexDigit (c.toNat / 16), Text.lowerHexDigit (c.toNat % 16)]
  else [c]

/-- A character that needs no escape stands for itself. -/
theorem escapedChar_of_plain {c : Char} (hq : c ≠ '"') (hb : c ≠ '\\') (h : 0x20 ≤ c.toNat) :
    escapedChar c = [c] := by
  have h₁ : c ≠ '\x08' := fun e => by subst e; revert h; decide
  have h₂ : c ≠ '\x0c' := fun e => by subst e; revert h; decide
  have h₃ : c ≠ '\n' := fun e => by subst e; revert h; decide
  have h₄ : c ≠ '\r' := fun e => by subst e; revert h; decide
  have h₅ : c ≠ '\t' := fun e => by subst e; revert h; decide
  have h₆ : ¬ c.toNat < 0x20 := by omega
  simp [escapedChar, hq, hb, h₁, h₂, h₃, h₄, h₅, h₆]

/-- The characters of a text between quotes. -/
def quotedChars (cs : List Char) : List Char := '"' :: cs.flatMap escapedChar ++ ['"']

/-- A text as a string of a document. -/
def quote (s : String) : String := String.ofList (quotedChars s.toList)

/-! ### Without blanks -/

mutual

/-- The characters of a document without blanks. -/
def compactChars : Json → List Char
  | null => ['n', 'u', 'l', 'l']
  | bool true => ['t', 'r', 'u', 'e']
  | bool false => ['f', 'a', 'l', 's', 'e']
  | number n => n.toText
  | string s => quotedChars s.toList
  | array items => '[' :: compactItems items ++ [']']
  | object members => '\x7b' :: compactMembers members ++ ['\x7d']

/-- The elements of an array, with commas between them. -/
def compactItems : List Json → List Char
  | [] => []
  | [v] => compactChars v
  | v :: w :: r => compactChars v ++ ',' :: compactItems (w :: r)

/-- The members of an object, with commas between them. -/
def compactMembers : List (String × Json) → List Char
  | [] => []
  | [(k, v)] => quotedChars k.toList ++ ':' :: compactChars v
  | (k, v) :: e :: r =>
    quotedChars k.toList ++ ':' :: compactChars v ++ ',' :: compactMembers (e :: r)

end

/-- The text of a document without blanks. -/
def compact (v : Json) : String := String.ofList v.compactChars

/-! ### Over several lines -/

/-- The start of a line at a depth. -/
def newLine (depth : Nat) : List Char := '\n' :: List.replicate (2 * depth) ' '

mutual

/-- The characters of a document whose first line stands at a depth. -/
def prettyChars (depth : Nat) : Json → List Char
  | array [] => ['[', ']']
  | array (v :: r) => '[' :: prettyItems (depth + 1) (v :: r) ++ newLine depth ++ [']']
  | object [] => ['\x7b', '\x7d']
  | object (e :: r) =>
    '\x7b' :: prettyMembers (depth + 1) (e :: r) ++ newLine depth ++ ['\x7d']
  | null => compactChars null
  | bool b => compactChars (bool b)
  | number n => compactChars (number n)
  | string s => compactChars (string s)

/-- The elements of an array, each on its lines. -/
def prettyItems (depth : Nat) : List Json → List Char
  | [] => []
  | [v] => newLine depth ++ prettyChars depth v
  | v :: w :: r => newLine depth ++ prettyChars depth v ++ ',' :: prettyItems depth (w :: r)

/-- The members of an object, each on its lines. -/
def prettyMembers (depth : Nat) : List (String × Json) → List Char
  | [] => []
  | [(k, v)] => newLine depth ++ quotedChars k.toList ++ ':' :: ' ' :: prettyChars depth v
  | (k, v) :: e :: r =>
    newLine depth ++ quotedChars k.toList ++ ':' :: ' ' :: prettyChars depth v ++
      ',' :: prettyMembers depth (e :: r)

end

/-- The text of a document over several lines. -/
def pretty (v : Json) : String := String.ofList (prettyChars 0 v)

end FieldQuery.Json
