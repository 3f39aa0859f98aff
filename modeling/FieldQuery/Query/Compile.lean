/-
**Queries as text.**

A selection is written member by member, and the variables that its arguments use are collected on
the way.  They are declared at the head of the query, after the operation and its name, although
they are known only when the body has been written.

Main definitions:

* `CompiledQuery` — the text of a query and its variables;
* `Selection.text` — the text of a member at a position;
* `SelectionSet.head`, `SelectionSet.compile` — the head of a query, and the whole.
-/

import FieldQuery.Query.Argument
import FieldQuery.Selection.Basic

set_option autoImplicit false

namespace FieldQuery

/-- The text of a query and the variables it declares. -/
structure CompiledQuery where
  text : String
  declared : VariableTable
deriving DecidableEq

namespace Selection

/-- The text of a set from those of its members. -/
def setTextOf : List String → String
  | [] => "\x7b\x7d"
  | t :: r => "\x7b " ++ " ".intercalate (t :: r) ++ " \x7d"

/-- Directives with a blank before them. -/
def directivesText : Option String → String
  | some text => " " ++ text
  | none => ""

/-- The key of a field with the text of its arguments. -/
def keyWithArguments (key arguments : String) : String :=
  if arguments = "" then key else key ++ "(" ++ arguments ++ ")"

/-- The position of the members of a field: a fragment in place is no step. -/
def positionBelow (path : SchemaPath) (field : String) : SchemaPath :=
  if Key.isInlineFragment field then path else path.field field

mutual

/-- The text of a member.  `key` is the text so far, `field` says which field is meant, and `path`
is the position of the set that the member belongs to. -/
def text (schema : Schema) (coders : Coders) (path : SchemaPath) (key field : String) :
    Selection → Compilation String
  | .leaf => return key
  | .raw t => return key ++ " " ++ t
  | .object members directives => do
    let texts ← memberTexts schema coders (positionBelow path field) members
    return key ++ directivesText directives ++ " " ++ setTextOf texts
  | .call arguments body => do
    let t ← Argument.listText schema coders (path.argument field) arguments
    text schema coders path (keyWithArguments key t) field body

/-- The texts of the members of a set at a position. -/
def memberTexts (schema : Schema) (coders : Coders) (path : SchemaPath) :
    List (MemberKey × Selection) → Compilation (List String)
  | [] => return []
  | (k, s) :: r => do
    let t ← text schema coders path k.written k.field s
    return t :: (← memberTexts schema coders path r)

end

end Selection

namespace SelectionSet

/-- The text of a set as the body of an operation. -/
def bodyText (schema : Schema) (coders : Coders) (operation : String) (s : SelectionSet) :
    Compilation String := do
  return Selection.setTextOf
    (← Selection.memberTexts schema coders (SchemaPath.field [] operation) s.members)

/-- The declarations of a query in parentheses, if there are any. -/
def declarationsText (declared : VariableTable) : String :=
  if declared.isEmpty then "" else "(" ++ declared.declarations ++ ")"

/-- The head of a query: operation, name, declarations and directives. -/
def head (operation : String) (operationName : Option String) (declared : VariableTable)
    (directives : Option String) : String :=
  let nameText := match operationName with
    | some name => " " ++ name
    | none => ""
  operation ++ nameText ++ declarationsText declared ++ Selection.directivesText directives

/-- The query that asks an operation for a set. -/
def compile (schema : Schema) (coders : Coders) (operationName : Option String)
    (operation : String) (s : SelectionSet) : Except QueryError CompiledQuery :=
  match s.bodyText schema coders operation |>.run Dictionary.empty with
  | (.ok body, declared) =>
    .ok ⟨head operation operationName declared s.directives ++ " " ++ body, declared⟩
  | (.error e, _) => .error e

end SelectionSet

end FieldQuery
