/-
**Operations.**

A query text begins with the kind of operation that it asks for.

Main definitions:

* `Operation` — query, mutation or subscription;
* `Operation.name`, `Operation.ofName?` — its keyword, and the operation of a keyword.

Main results:

* `Operation.ofName?_name` — an operation is found by its keyword.
-/

set_option autoImplicit false

namespace FieldQuery

/-- The kind of an operation. -/
inductive Operation where
  | query
  | mutation
  | subscription
deriving DecidableEq, Repr

namespace Operation

/-- The keyword of an operation. -/
def name : Operation → String
  | query => "query"
  | mutation => "mutation"
  | subscription => "subscription"

/-- All operations. -/
def all : List Operation := [query, mutation, subscription]

/-- The operation of a keyword. -/
def ofName? (text : String) : Option Operation := all.find? fun o => o.name == text

/-- An operation is found by its keyword. -/
theorem ofName?_name (o : Operation) : ofName? o.name = some o := by
  cases o <;> simp [ofName?, all, name]

end Operation

end FieldQuery
