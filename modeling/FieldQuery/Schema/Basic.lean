/-
**Schema tables.**

What is known of a schema is held in three tables: the root type of each operation, the shape of
each type as an argument, and the shape of each type as a result.  A shape is a marker, for an
enumeration or a custom scalar, or the fields of the type.  A field that takes arguments maps to
their types where arguments are described.

Main definitions:

* `TypeShape` — the shape of a type;
* `InputField` — a field where arguments are described;
* `Schema` — the three tables;
* `Schema.inputField?`, `Schema.resultField?` — one step through a table.
-/

import FieldQuery.Dictionary

set_option autoImplicit false

namespace FieldQuery

/-- The shape of a type in a table. -/
inductive TypeShape (φ : Type) where
  | enumeration
  | scalar (name : String)
  | fields (fields : Dictionary φ)
deriving DecidableEq

/-- A field where arguments are described: an input of a type, or a field with arguments of its
own. -/
inductive InputField where
  | type (name : String)
  | arguments (types : Dictionary String)
deriving DecidableEq

/-- The tables of a schema. -/
structure Schema where
  operations : Dictionary String
  inputs : Dictionary (TypeShape InputField)
  results : Dictionary (TypeShape String)
deriving DecidableEq

namespace Schema

/-- The tables without entries. -/
def empty : Schema := ⟨Dictionary.empty, Dictionary.empty, Dictionary.empty⟩

/-- The root type of an operation, where it is listed. -/
def rootType? (s : Schema) (operation : String) : Option String := s.operations.get? operation

/-- The root type of an operation; one that is not listed is its own. -/
def rootType (s : Schema) (operation : String) : String :=
  (s.rootType? operation).getD operation

/-- A field of a type where arguments are described. -/
def inputField? (s : Schema) (type field : String) : Option InputField :=
  match s.inputs.get? type with
  | some (.fields fields) => fields.get? field
  | _ => none

/-- The type of a field of a type where results are described. -/
def resultField? (s : Schema) (type field : String) : Option String :=
  match s.results.get? type with
  | some (.fields fields) => fields.get? field
  | _ => none

end Schema

end FieldQuery
