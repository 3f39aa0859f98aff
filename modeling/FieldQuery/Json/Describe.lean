/-
**Documents in diagnostics.**

A diagnostic that quotes a document names the kind of each of its parts, so that a string is told
from a number and an empty object from an empty array.

Main definitions:

* `Json.describe` — the text of a document with its kinds.
-/

import FieldQuery.Json.Basic
import FieldQuery.Text.Quoted

set_option autoImplicit false

namespace FieldQuery.Json

mutual

/-- A document with the kinds of its parts. -/
def describe : Json → String
  | null => "Null"
  | bool true => "Bool(true)"
  | bool false => "Bool(false)"
  | number n => "Number(" ++ String.ofList n.toText ++ ")"
  | string s => "String(" ++ Text.quoted s ++ ")"
  | array items => "Array [" ++ describeItems items ++ "]"
  | object members => "Object \x7b" ++ describeMembers members ++ "\x7d"

/-- The elements of an array with commas and blanks between them. -/
def describeItems : List Json → String
  | [] => ""
  | [v] => describe v
  | v :: w :: r => describe v ++ ", " ++ describeItems (w :: r)

/-- The members of an object with commas and blanks between them. -/
def describeMembers : List (String × Json) → String
  | [] => ""
  | [(k, v)] => Text.quoted k ++ ": " ++ describe v
  | (k, v) :: e :: r => Text.quoted k ++ ": " ++ describe v ++ ", " ++ describeMembers (e :: r)

end

end FieldQuery.Json
