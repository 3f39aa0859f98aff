/-
**Positions in a schema.**

A position is reached from an operation or a type through fields and then through arguments.  It is
written as the field names with dots between them, a bar, and the argument names with dots between
them.

Main definitions:

* `Segment` — one step, through a field or an argument;
* `SchemaPath` — a position;
* `SchemaPath.field`, `SchemaPath.argument` — one step further;
* `SchemaPath.display`, `SchemaPath.ofText` — a position as text and back.

Main results:

* `SchemaPath.display_singleton` — the text of a position of one step.
-/

import FieldQuery.Selection.Key

set_option autoImplicit false

namespace FieldQuery

/-- What a step goes through. -/
inductive SegmentKind where
  | field
  | argument
deriving DecidableEq, Repr

/-- A step: into a field of a selection, or into an argument and the inputs below it. -/
structure Segment where
  name : String
  kind : SegmentKind
deriving DecidableEq, Repr

/-- The step goes through an argument. -/
def Segment.isArgument (s : Segment) : Bool := s.kind = .argument

/-- A position in a schema. -/
abbrev SchemaPath := List Segment

namespace SchemaPath

/-- The position one field further. -/
def field (p : SchemaPath) (key : String) : SchemaPath := p ++ [⟨Key.purify key, .field⟩]

/-- The position one argument further. -/
def argument (p : SchemaPath) (key : String) : SchemaPath := p ++ [⟨Key.purify key, .argument⟩]

/-! ### Text -/

/-- What separates a step from the one before it: a bar where the arguments begin. -/
def separator : SegmentKind → SegmentKind → Char
  | .field, .argument => '|'
  | _, _ => '.'

/-- The steps after one of a given kind, each with its separator. -/
def displayAfter : SegmentKind → SchemaPath → List Char
  | _, [] => []
  | before, s :: r => separator before s.kind :: s.name.toList ++ displayAfter s.kind r

/-- The characters of a position. -/
def displayChars : SchemaPath → List Char
  | [] => []
  | s :: r => s.name.toList ++ displayAfter s.kind r

/-- The text of a position. -/
def display (p : SchemaPath) : String := String.ofList (displayChars p)

theorem display_singleton (s : Segment) : displayChars [s] = s.name.toList := by
  simp [displayChars, displayAfter]

/-- The steps of one kind whose names stand with dots between them; a name cannot be empty. -/
def steps (kind : SegmentKind) (cs : List Char) : SchemaPath :=
  (Text.solidPieces '.' cs).map fun name => ⟨String.ofList name, kind⟩

/-- The position that characters spell. -/
def ofChars (cs : List Char) : SchemaPath :=
  match Text.cutAt '|' cs with
  | some (fields, arguments) => steps .field fields ++ steps .argument arguments
  | none => steps .field cs

/-- The position that a text spells. -/
def ofText (text : String) : SchemaPath := ofChars text.toList

end SchemaPath

end FieldQuery
