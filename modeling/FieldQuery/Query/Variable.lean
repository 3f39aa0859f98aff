/-
**Variables.**

An argument may be left open: a string of a certain form stands for a variable and says its name
and its type.  A query declares each of its variables once, in the order of their first use, and
every use must give the same type.

Main definitions:

* `Variable` — a name and a type;
* `Variable.placeholder`, `Variable.ofText` — the string that stands for a variable, and the
  variable that a string stands for, if any;
* `VariableTable` — the variables declared so far;
* `VariableTable.declare` — one use more;
* `VariableTable.declarations` — the declarations as text.

Main results:

* `Variable.ofText_of_not_marked` — a string without the marker stands for no variable;
* `VariableTable.declare_new` — a new name is declared at the end.
-/

import FieldQuery.Dictionary
import FieldQuery.Text.Cut

set_option autoImplicit false

namespace FieldQuery

/-- A name and a type. -/
structure Variable where
  name : String
  type : String
deriving DecidableEq, Repr

/-- What is wrong with the use of a variable. -/
inductive VariableError where
  | malformed (text : String)
  | typeConflict (name first second : String)
deriving DecidableEq, Repr

/-- The message of an error. -/
def VariableError.message : VariableError → String
  | malformed text => "malformed variable placeholder `" ++ text ++ "`"
  | typeConflict name first second =>
    "variable `$" ++ name ++ "` declared with two different types: `" ++ first ++ "` and `" ++
      second ++ "`"

namespace Variable

/-! ### Placeholders -/

/-- What a placeholder begins with. -/
def marker : List Char := ['$', 'q', 's', 'e', 'l', ':']

/-- What stands between name and type. -/
def typeMark : List Char := [':', ':', '$', 't', 'y', 'p', 'e', ':', ':']

/-- The string that stands for a variable. -/
def placeholder (v : Variable) : String :=
  String.ofList (marker ++ v.name.toList ++ typeMark ++ v.type.toList)

/-- The variable that a string stands for; none where it is an ordinary string. -/
def ofText (text : String) : Except VariableError (Option Variable) :=
  match marker.isPrefixOf? text.toList with
  | none => .ok none
  | some body =>
    match Text.cutAtText typeMark body with
    | none => .error (.malformed text)
    | some (name, type) =>
      if name.isEmpty || type.isEmpty then .error (.malformed text)
      else .ok (some ⟨String.ofList name, String.ofList type⟩)

/-- A string without the marker stands for no variable. -/
theorem ofText_of_not_marked {text : String} (h : marker.isPrefixOf? text.toList = none) :
    ofText text = .ok none := by
  simp [ofText, h]

end Variable

/-! ### Tables -/

/-- The variables declared so far, names mapped to types in the order of their first use. -/
abbrev VariableTable := Dictionary String

namespace VariableTable

/-- One use more: the first gives the type, and the others must repeat it. -/
def declare (t : VariableTable) (v : Variable) : Except VariableError VariableTable :=
  match t.get? v.name with
  | some first => if first = v.type then .ok t else .error (.typeConflict v.name first v.type)
  | none => .ok (t.insert v.name v.type)

/-- A new name is declared at the end. -/
theorem declare_new {t : VariableTable} {v : Variable} (h : t.get? v.name = none) :
    t.declare v = .ok (t.insert v.name v.type) := by
  simp [declare, h]

/-- One declaration. -/
def declaration (e : String × String) : String := "$" ++ e.1 ++ ": " ++ e.2

/-- The declarations with commas between them. -/
def declarations (t : VariableTable) : String :=
  ", ".intercalate (t.entries.map declaration)

end VariableTable

end FieldQuery
