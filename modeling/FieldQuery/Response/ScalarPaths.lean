/-
**Where the scalars are.**

A walk through a selection finds the positions at which the response will carry custom scalars.
Two histories are kept on the way: the names that the server answers under, which make the
position, and the fields that were meant, which find the type.  Arguments play no part.

Main definitions:

* `ScalarPaths` — positions with the names of their scalars, in the order of the walk;
* `ScalarPaths.get?` — the scalar at a position; of several findings the last one counts;
* `SelectionSet.scalarPaths` — the positions found in a selection;
* `ScalarPaths.sorted` — the positions in order, each once.

Main results:

* `ScalarPaths.get?_append_singleton` — a later finding replaces an earlier one.
-/

import FieldQuery.Response.Path
import FieldQuery.Schema.Classify
import FieldQuery.Selection.Basic

set_option autoImplicit false

namespace FieldQuery

/-- Positions of scalars in the order in which they were found. -/
abbrev ScalarPaths := List (ResponsePath × String)

namespace ScalarPaths

/-- The scalar at a position; of several findings the last one counts. -/
def get? : ScalarPaths → ResponsePath → Option String
  | [], _ => none
  | (q, name) :: r, p => (get? r p).or (if q = p then some name else none)

/-- A later finding replaces an earlier one. -/
theorem get?_append_singleton (ps : ScalarPaths) (q p : ResponsePath) (name : String) :
    get? (ps ++ [(q, name)]) p = if q = p then some name else get? ps p := by
  induction ps with
  | nil => simp [get?]
  | cons e r ih =>
    obtain ⟨q', name'⟩ := e
    rw [List.cons_append, get?, ih, get?]
    split <;> simp

/-- The positions in order, each with the scalar that counts. -/
def sorted (ps : ScalarPaths) : ScalarPaths :=
  let distinct := (ps.map Prod.fst).eraseDups
  (distinct.filterMap fun p => (get? ps p).map fun name => (p, name)).mergeSort
    fun a b => ResponsePath.le a.1 b.1

end ScalarPaths

namespace Selection

/-- The scalar found at a leaf. -/
def leafPath (schema : Schema) (root : String) (position : ResponsePath) (fields : List String)
    (answer field : String) : ScalarPaths :=
  match schema.resultAt root (fields ++ [Key.purify field]) with
  | .scalar name => [(position.child answer, name)]
  | _ => []

mutual

/-- The scalars found in a member: `answer` is the name that the server answers under, `field` the
field that is meant; `position` and `fields` are those of the set. -/
def scalarPaths (schema : Schema) (root : String) (position : ResponsePath)
    (fields : List String) (answer field : String) : Selection → ScalarPaths
  | .leaf => leafPath schema root position fields answer field
  | .raw _ => leafPath schema root position fields answer field
  | .call _ body => scalarPaths schema root position fields answer field body
  | .object members _ =>
    if Key.isInlineFragment field then memberScalarPaths schema root position fields members
    else
      memberScalarPaths schema root (position.child answer) (fields ++ [Key.purify field]) members

/-- The scalars found in the members of a set. -/
def memberScalarPaths (schema : Schema) (root : String) (position : ResponsePath)
    (fields : List String) : List (MemberKey × Selection) → ScalarPaths
  | [] => []
  | (k, s) :: r =>
    scalarPaths schema root position fields k.answer k.field s ++
      memberScalarPaths schema root position fields r

end

end Selection

/-- The positions of the scalars in a response to a selection on a type. -/
def SelectionSet.scalarPaths (schema : Schema) (root : String) (s : SelectionSet) : ScalarPaths :=
  Selection.memberScalarPaths schema root [] [] s.members

end FieldQuery
