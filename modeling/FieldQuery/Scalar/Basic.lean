/-
**Coders of custom scalars.**

A custom scalar may be written in a query, and held by a program, in a form of its own.  A coder
has a function for each direction; a direction without one leaves values as they are.

Main definitions:

* `CoderError` — why a value could not be encoded or decoded;
* `Coder` — the two functions;
* `Coders` — coders by the names of their scalars;
* `Coders.encode?`, `Coders.decoder?` — what is registered for a scalar.
-/

import FieldQuery.Json.Reading

set_option autoImplicit false

namespace FieldQuery

/-- Why a value could not be encoded or decoded. -/
inductive CoderError where
  | invalidValue (text : String)
  | unreadable (error : Json.ReadError)
  | custom (text : String)
deriving DecidableEq, Repr

/-- The functions of one scalar. -/
structure Coder where
  encode : Option (Json → Except CoderError String)
  decode : Option (Json → Except CoderError Json)

/-- The coder that leaves values as they are. -/
def Coder.none : Coder := ⟨Option.none, Option.none⟩

/-- Coders by the names of their scalars. -/
abbrev Coders := Dictionary Coder

namespace Coders

/-- The coder of a scalar, or the one that leaves values as they are. -/
def coder (cs : Coders) (name : String) : Coder := (cs.get? name).getD .none

/-- Both functions of a scalar replaced. -/
def withCoder (cs : Coders) (name : String) (c : Coder) : Coders := cs.insert name c

/-- The encoder of a scalar replaced. -/
def withEncoder (cs : Coders) (name : String) (f : Json → Except CoderError String) : Coders :=
  cs.insert name { cs.coder name with encode := some f }

/-- The decoder of a scalar replaced. -/
def withDecoder (cs : Coders) (name : String) (f : Json → Except CoderError Json) : Coders :=
  cs.insert name { cs.coder name with decode := some f }

/-- The encoder of a scalar, if there is one. -/
def encoder? (cs : Coders) (name : String) : Option (Json → Except CoderError String) :=
  (cs.get? name).bind Coder.encode

/-- The decoder of a scalar, if there is one. -/
def decoder? (cs : Coders) (name : String) : Option (Json → Except CoderError Json) :=
  (cs.get? name).bind Coder.decode

/-- The text of a value of a scalar; none where the scalar has no encoder. -/
def encode? (cs : Coders) (name : String) (v : Json) : Except CoderError (Option String) :=
  match cs.encoder? name with
  | some f => (f v).map some
  | none => .ok none

/-- The names of the scalars in alphabetical order. -/
def sortedNames (cs : Coders) : List String := cs.keys.mergeSort fun a b => a ≤ b

/-- The names of the scalars in a diagnostic. -/
def describe (cs : Coders) : String :=
  "ScalarCoders \x7b scalars: [" ++ ", ".intercalate (cs.sortedNames.map Text.quoted) ++ "] \x7d"

end Coders

end FieldQuery
