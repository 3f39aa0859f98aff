/-
**Classifying positions.**

Whether a value is an enumeration or a custom scalar depends on its position.  At every type the
table of arguments is asked first, and the table of results where it has no step to offer.  A step
that can be taken is taken for good: what it leads to is the answer, even if that is nothing.

Main definitions:

* `Classification` — an enumeration, a scalar, or neither;
* `Schema.classifyFrom` — the classification of a position below a type;
* `Schema.classify` — the classification of a position whose first step names an operation or a
  type;
* `Schema.resultAt` — the classification of a result below a type, by field names alone.

Main results:

* `Schema.classifyFrom_field` — a field step asks the table of results alone;
* `Schema.resultAt_cons` — a result is looked up one field at a time.
-/

import FieldQuery.Schema.Basic
import FieldQuery.Schema.Path

set_option autoImplicit false

namespace FieldQuery

/-- What is known of the values at a position. -/
inductive Classification where
  | enumeration
  | scalar (name : String)
  | neither
deriving DecidableEq, Repr

/-- The name of the scalar, if the position has one. -/
def Classification.scalarName? : Classification → Option String
  | scalar name => some name
  | _ => none

/-- The text of a classification. -/
def Classification.display : Classification → String
  | enumeration => "enum"
  | scalar name => "scalar." ++ name
  | neither => "not"

/-- The classification that a shape gives to the type itself. -/
def TypeShape.classification {φ : Type} : TypeShape φ → Classification
  | .enumeration => .enumeration
  | .scalar name => .scalar name
  | .fields _ => .neither

namespace Schema

/-! ### Positions of arguments and results -/

/-- The classification of a type itself: as an argument if it is described as one, else as a
result. -/
def classifyType (s : Schema) (type : String) : Classification :=
  match s.inputs.get? type, s.results.get? type with
  | some shape, _ => shape.classification
  | none, some shape => shape.classification
  | none, none => .neither

/-- The classification of a position below a type. -/
def classifyFrom (s : Schema) (type : String) : SchemaPath → Classification
  | [] => s.classifyType type
  | step :: rest =>
    let throughResults (_ : Unit) : Classification :=
      match s.resultField? type step.name with
      | some t => s.classifyFrom t rest
      | none => .neither
    if step.isArgument then
      match s.inputField? type step.name with
      | none => throughResults ()
      | some (.type t) => s.classifyFrom t rest
      | some (.arguments types) =>
        match rest with
        | [] => .neither
        | argument :: rest =>
          if argument.isArgument then
            match types.get? argument.name with
            | some t => s.classifyFrom t rest
            | none => throughResults ()
          else throughResults ()
    else throughResults ()

/-- The classification of a position; its first step names an operation or a type. -/
def classify (s : Schema) : SchemaPath → Classification
  | [] => .neither
  | first :: rest => s.classifyFrom (s.rootType first.name) rest

/-- A field step asks the table of results alone. -/
theorem classifyFrom_field (s : Schema) (type name : String) (rest : SchemaPath) :
    s.classifyFrom type (⟨name, .field⟩ :: rest) =
      match s.resultField? type name with
      | some t => s.classifyFrom t rest
      | none => .neither := by
  rw [classifyFrom]
  simp [Segment.isArgument]

/-! ### Results alone -/

/-- The classification of a result below a type, by the names of the fields on the way. -/
def resultAt (s : Schema) (type : String) : List String → Classification
  | [] =>
    match s.results.get? type with
    | some shape => shape.classification
    | none => .neither
  | field :: rest =>
    match s.resultField? type field with
    | some t => s.resultAt t rest
    | none => .neither

/-- A result is looked up one field at a time. -/
theorem resultAt_cons (s : Schema) (type field : String) (rest : List String) :
    s.resultAt type (field :: rest) =
      match s.resultField? type field with
      | some t => s.resultAt t rest
      | none => .neither := rfl

end Schema

end FieldQuery
