/-
**Positions in a response.**

A position in a response is reached through the names of its objects; the elements of an array are
all at the position of the array.

Main definitions:

* `ResponsePath` — a position;
* `ResponsePath.child` — one name further;
* `ResponsePath.display`, `ResponsePath.ofText` — a position as text and back;
* `ResponsePath.le` — the order in which positions are listed.

Main results:

* `ResponsePath.le_refl` — the order is reflexive.
-/

import FieldQuery.Selection.Key

set_option autoImplicit false

namespace FieldQuery

/-- A position in a response. -/
abbrev ResponsePath := List String

namespace ResponsePath

/-- The position one name further. -/
def child (p : ResponsePath) (key : String) : ResponsePath := p ++ [Key.purify key]

/-- The text of a position. -/
def display (p : ResponsePath) : String := ".".intercalate p

/-- The position that a text spells. -/
def ofText (text : String) : ResponsePath :=
  (Text.solidPieces '.' text.toList).map String.ofList

/-- Positions are ordered name by name; a position comes before the ones below it. -/
def le : ResponsePath → ResponsePath → Bool
  | [], _ => true
  | _ :: _, [] => false
  | a :: p, b :: q => if a < b then true else if b < a then false else le p q

theorem le_refl (p : ResponsePath) : le p p = true := by
  induction p with
  | nil => rfl
  | cons a p ih => rw [le, if_neg (String.lt_irrefl a), if_neg (String.lt_irrefl a), ih]

end ResponsePath

end FieldQuery
