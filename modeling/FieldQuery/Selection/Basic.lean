/-
**Selections.**

A selection says what to fetch of a field: the field alone, some raw text, a set of members, or any
of these of the field called with arguments.  A member of a set goes by its key, or by an alias for
a field.  A set can also carry directives, which are written after the key of the field it belongs
to.

Main definitions:

* `MemberKey` — a key, or an alias and a field;
* `Selection` — what to fetch of a field;
* `SelectionSet` — members and directives;
* `SelectionSet.withMember` and its companions — sets built member by member.
-/

import FieldQuery.Json.Basic

set_option autoImplicit false

namespace FieldQuery

/-- What a member goes by. -/
inductive MemberKey where
  | plain (key : String)
  | aliased (alternative field : String)
deriving DecidableEq, Repr

namespace MemberKey

/-- The text of the key in a query. -/
def written : MemberKey → String
  | plain key => key
  | aliased alternative field => alternative ++ ":" ++ field

/-- The key that says which field of the schema is meant. -/
def field : MemberKey → String
  | plain key => key
  | aliased _ field => field

/-- The key under which the response carries the value. -/
def answer : MemberKey → String
  | plain key => key
  | aliased alternative _ => alternative

end MemberKey

/-- What to fetch of a field. -/
inductive Selection where
  | leaf
  | raw (text : String)
  | object (members : List (MemberKey × Selection)) (directives : Option String)
  | call (arguments : Json) (body : Selection)
deriving Inhabited

/-- The members to fetch, and the directives of the field they belong to. -/
structure SelectionSet where
  members : List (MemberKey × Selection)
  directives : Option String
deriving Inhabited

namespace SelectionSet

/-- The set without members. -/
def empty : SelectionSet := ⟨[], none⟩

/-- There are no members. -/
def isEmpty (s : SelectionSet) : Bool := s.members.isEmpty

/-- The set as what to fetch of a field. -/
def toSelection (s : SelectionSet) : Selection := .object s.members s.directives

/-! ### Building -/

/-- One member more. -/
def withMember (s : SelectionSet) (key : MemberKey) (selection : Selection) : SelectionSet :=
  { s with members := s.members ++ [(key, selection)] }

/-- One field more. -/
def withField (s : SelectionSet) (key : String) : SelectionSet := s.withMember (.plain key) .leaf

/-- One field with raw text more. -/
def withRaw (s : SelectionSet) (key text : String) : SelectionSet :=
  s.withMember (.plain key) (.raw text)

/-- One field with members of its own more. -/
def withObject (s : SelectionSet) (key : String) (set : SelectionSet) : SelectionSet :=
  s.withMember (.plain key) set.toSelection

/-- One field with arguments more. -/
def withCall (s : SelectionSet) (key : String) (arguments : Json) (body : Selection) :
    SelectionSet :=
  s.withMember (.plain key) (.call arguments body)

/-- One field under an alias more. -/
def withAlias (s : SelectionSet) (alternative field : String) (selection : Selection) :
    SelectionSet :=
  s.withMember (.aliased alternative field) selection

/-- Directives in place of those there are. -/
def withDirectives (s : SelectionSet) (text : String) : SelectionSet :=
  { s with directives := some text }

end SelectionSet

end FieldQuery
