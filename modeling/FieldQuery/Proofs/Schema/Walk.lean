/-
**Walks through the fields of results.**

Looking up a result takes one field after the other.  The walk along a list of field names either
reaches a type or fails, and what lies behind the names is what lies behind the type that is
reached.

Main definitions:

* `SchemaPath.fields`, `SchemaPath.arguments` — steps through fields, and through arguments;
* `Schema.walk?` — the type that a list of field names leads to;
* `Schema.scalarOf?` — the scalar that a type is described as, as a result.

Main results:

* `Schema.walk?_append` — walks are taken one after the other;
* `Schema.resultAt_append` — a result behind a walk is a result of the type reached.
-/

import FieldQuery.Schema.Classify

set_option autoImplicit false

namespace FieldQuery

/-! ### Paths of one kind -/

namespace SchemaPath

/-- Steps through fields. -/
def fields (names : List String) : SchemaPath := names.map fun name => ⟨name, .field⟩

/-- Steps through arguments. -/
def arguments (names : List String) : SchemaPath := names.map fun name => ⟨name, .argument⟩

@[simp] theorem fields_nil : fields [] = [] := rfl

@[simp] theorem fields_cons (name : String) (rest : List String) :
    fields (name :: rest) = ⟨name, .field⟩ :: fields rest := rfl

@[simp] theorem arguments_nil : arguments [] = [] := rfl

@[simp] theorem arguments_cons (name : String) (rest : List String) :
    arguments (name :: rest) = ⟨name, .argument⟩ :: arguments rest := rfl

end SchemaPath

namespace Schema

/-! ### Walks -/

variable (s : Schema)

/-- The type that a list of field names leads to. -/
def walk? (type : String) : List String → Option String
  | [] => some type
  | field :: rest => (s.resultField? type field).bind fun t => walk? t rest

/-- The scalar that a type is described as, as a result. -/
def scalarOf? (type : String) : Option String := (s.resultAt type []).scalarName?

@[simp] theorem walk?_nil (type : String) : s.walk? type [] = some type := rfl

theorem walk?_cons (type field : String) (rest : List String) :
    s.walk? type (field :: rest) = (s.resultField? type field).bind fun t => s.walk? t rest := rfl

/-- Walks are taken one after the other. -/
theorem walk?_append (type : String) (fs gs : List String) :
    s.walk? type (fs ++ gs) = (s.walk? type fs).bind fun t => s.walk? t gs := by
  induction fs generalizing type with
  | nil => rfl
  | cons field rest ih =>
    rw [List.cons_append, walk?_cons, walk?_cons]
    cases s.resultField? type field with
    | none => rfl
    | some t => exact ih t

/-- The walk along one more field. -/
theorem walk?_concat (type : String) (fs : List String) (field : String) :
    s.walk? type (fs ++ [field]) = (s.walk? type fs).bind fun t => s.resultField? t field := by
  rw [walk?_append]
  congr 1
  funext t
  rw [walk?_cons]
  cases s.resultField? t field <;> rfl

/-- A result behind a walk is a result of the type reached; where the walk fails there is
nothing. -/
theorem resultAt_append (type : String) (fs gs : List String) :
    s.resultAt type (fs ++ gs) =
      ((s.walk? type fs).map fun t => s.resultAt t gs).getD .neither := by
  induction fs generalizing type with
  | nil => rfl
  | cons field rest ih =>
    rw [List.cons_append, resultAt_cons, walk?_cons]
    cases s.resultField? type field with
    | none => rfl
    | some t => exact ih t

/-- The scalar at the end of a walk is the one that the type reached is described as. -/
theorem scalarName?_resultAt (type : String) (fs : List String) :
    (s.resultAt type fs).scalarName? = (s.walk? type fs).bind s.scalarOf? := by
  have happend := s.resultAt_append type fs []
  rw [List.append_nil] at happend
  rw [happend]
  cases s.walk? type fs <;> rfl

end Schema

end FieldQuery
