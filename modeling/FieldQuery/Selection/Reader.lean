/-
**Selections from documents.**

A selection is written as a document.  `true` or a number selects a field, `false`, zero and null
leave it out, a string is raw text, an object is a set, and a pair of an object and any of these is
a call.  Two keys are special: `__directives` gives the directives of the set, and `__alias` maps
alias names to the fields they stand for.

Main definitions:

* `SelectionError` — what is wrong with a document, with its message;
* `Selection.ofJson` — what a document says of a field; nothing, where the field is left out;
* `SelectionSet.ofJson` — the set that a document describes.
-/

import FieldQuery.Selection.Basic
import FieldQuery.Json.Reading

set_option autoImplicit false

namespace FieldQuery

/-- What is wrong with a document that should describe a selection. -/
inductive SelectionError where
  | rootNotObject
  | badPairLength (key : String) (length : Nat)
  | argumentsNotObject (key : String)
  | nestedPair (key : String)
  | invalidAlias (name : String)
  | invalidAliasBlock
  | badDirectives
deriving DecidableEq, Repr

/-- The message of an error. -/
def SelectionError.message : SelectionError → String
  | rootNotObject => "selection must be an object"
  | badPairLength key length =>
    "field `" ++ key ++ "`: an argument pair must have exactly 2 elements, got " ++ toString length
  | argumentsNotObject key => "field `" ++ key ++ "`: arguments must be an object"
  | nestedPair key => "field `" ++ key ++ "`: argument pairs cannot be nested"
  | invalidAlias name =>
    "invalid alias `" ++ name ++
      "`: expecting __alias: \x7b ALIAS_NAME: \x7b FIELD_NAME: \x7b ...selectors \x7d \x7d \x7d"
  | invalidAliasBlock => "`__alias` must be an object mapping alias names to aliased fields"
  | badDirectives => "`__directives` must be a string"

/-- The key of the directives of a set. -/
def directivesKey : String := "__directives"

/-- The key of the aliased fields of a set. -/
def aliasKey : String := "__alias"

namespace Selection

mutual

/-- What a document says of the field `key`; nothing, where the field is left out. -/
def ofJson (key : String) : Json → Except SelectionError (Option Selection)
  | .null => .ok none
  | .bool b => .ok (if b then some leaf else none)
  | .number n => .ok (if n.isZero then none else some leaf)
  | .string text => .ok (some (raw text))
  | .object members => do
    let (ms, directives) ← ofMembers members
    return some (object ms directives)
  | .array [arguments, body] =>
    if !arguments.isObject then .error (.argumentsNotObject key)
    else if body.isArray then .error (.nestedPair key)
    else do return (← ofJson key body).map (call arguments)
  | .array items => .error (.badPairLength key items.length)

/-- The members and the directives that the members of an object describe. -/
def ofMembers : List (String × Json) →
    Except SelectionError (List (MemberKey × Selection) × Option String)
  | [] => .ok ([], none)
  | (key, v) :: rest =>
    if key = directivesKey then
      match v with
      | .string text => do
        let (ms, directives) ← ofMembers rest
        return (ms, directives.or (some text))
      | _ => .error .badDirectives
    else if key = aliasKey then
      match v with
      | .object block => do
        let aliases ← ofAliases block
        let (ms, directives) ← ofMembers rest
        return (aliases ++ ms, directives)
      | _ => .error .invalidAliasBlock
    else do
      let selection ← ofJson key v
      let (ms, directives) ← ofMembers rest
      return ((selection.map fun s => (MemberKey.plain key, s)).toList ++ ms, directives)

/-- The members that an alias block describes. -/
def ofAliases : List (String × Json) → Except SelectionError (List (MemberKey × Selection))
  | [] => .ok []
  | (name, .object [(field, v)]) :: rest => do
    let selection ← ofJson field v
    let ms ← ofAliases rest
    return (selection.map fun s => (MemberKey.aliased name field, s)).toList ++ ms
  | (name, _) :: _ => .error (.invalidAlias name)

end

end Selection

namespace SelectionSet

/-- The set that a document describes. -/
def ofJson : Json → Except SelectionError SelectionSet
  | .object members => (Selection.ofMembers members).map fun (ms, directives) => ⟨ms, directives⟩
  | _ => .error .rootNotObject

/-- The set that a text describes; what is wrong with the document is a misfit of the text. -/
def read (text : String) : Except Json.ReadError SelectionSet :=
  Json.readWith (fun o => do
    let v ← o.value
    (ofJson v).mapError fun e => .unfit (.custom e.message)) text

end SelectionSet

end FieldQuery
