/-
**Arguments as text.**

A value is written as its position asks.  A placeholder becomes its variable, whatever the
position.  A value at the position of a scalar with an encoder is encoded as a whole, composites
included, since a scalar may be of any form.  All else is written part by part: strings are quoted
except where an enumeration is expected, and the entries of an object are written at the positions
below.

Main definitions:

* `QueryError` — why a query could not be written;
* `Compilation` — writing text while variables are declared;
* `Argument.text` — the text of a value at a position;
* `Argument.listText` — the text of the arguments of a field, without the parentheses.
-/

import FieldQuery.Query.Variable
import FieldQuery.Scalar.Basic
import FieldQuery.Schema.Classify
import FieldQuery.Json.Printer

set_option autoImplicit false

namespace FieldQuery

/-- Why a query could not be written. -/
inductive QueryError where
  | variable (error : VariableError)
  | coder (error : CoderError)
deriving DecidableEq, Repr

/-- Writing text while variables are declared.  Variables declared before an error stay declared. -/
abbrev Compilation := ExceptT QueryError (StateM VariableTable)

namespace Compilation

/-- One use of a variable more. -/
def declare (v : Variable) : Compilation Unit := fun t =>
  match t.declare v with
  | .ok t' => (.ok (), t')
  | .error e => (.error (.variable e), t)

/-- A result that declares nothing. -/
def lift {α : Type} (r : Except QueryError α) : Compilation α := fun t => (r, t)

end Compilation

namespace Argument

/-- The text that a value has whatever its parts are: that of a variable, or that of an encoder. -/
def wholeText? (schema : Schema) (coders : Coders) (path : SchemaPath) (v : Json) :
    Compilation (Option String) := do
  let found ←
    match v with
    | .string s => Compilation.lift ((Variable.ofText s).mapError .variable)
    | _ => pure none
  match found with
  | some x => do
    Compilation.declare x
    return some ("$" ++ x.name)
  | none =>
    match schema.classify path with
    | .scalar name => Compilation.lift ((coders.encode? name v).mapError .coder)
    | _ => return none

/-- An ordinary string at a position. -/
def stringText (schema : Schema) (path : SchemaPath) (s : String) : String :=
  if schema.classify path = .enumeration then s else Json.quote s

mutual

/-- The text of a value at a position. -/
def text (schema : Schema) (coders : Coders) (path : SchemaPath) (v : Json) :
    Compilation String := do
  match ← wholeText? schema coders path v with
  | some t => return t
  | none =>
    match v with
    | .array items => return "[" ++ ", ".intercalate (← itemTexts schema coders path items) ++ "]"
    | .object members =>
      return "\x7b" ++ ", ".intercalate (← memberTexts schema coders path members) ++ "\x7d"
    | .string s => return stringText schema path s
    | .null => return Json.null.compact
    | .bool b => return (Json.bool b).compact
    | .number n => return (Json.number n).compact

/-- The texts of elements, all at one position. -/
def itemTexts (schema : Schema) (coders : Coders) (path : SchemaPath) :
    List Json → Compilation (List String)
  | [] => return []
  | v :: r => do
    let t ← text schema coders path v
    return t :: (← itemTexts schema coders path r)

/-- The texts of entries, each at its position below. -/
def memberTexts (schema : Schema) (coders : Coders) (path : SchemaPath) :
    List (String × Json) → Compilation (List String)
  | [] => return []
  | (k, v) :: r => do
    let t ← text schema coders (path.argument k) v
    return (k ++ ": " ++ t) :: (← memberTexts schema coders path r)

end

/-- The text of the arguments of a field: the entries of an object without braces, and any other
value as it is written at the position. -/
def listText (schema : Schema) (coders : Coders) (path : SchemaPath) (v : Json) :
    Compilation String := do
  match ← wholeText? schema coders path v with
  | some t => return t
  | none =>
    match v with
    | .object members => return ", ".intercalate (← memberTexts schema coders path members)
    | v => text schema coders path v

end Argument

end FieldQuery
