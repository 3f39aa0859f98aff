/-
**Headers.**

A header has a name of a few ASCII characters and a value without control characters.  Names that
differ in case are the same name, so headers are kept by their names in lower case, and of two
values for one name the later one counts.

Main definitions:

* `Header.isNameChar`, `Header.isValueChar` — what names and values are made of;
* `Header.checked` — configured headers, or what is wrong with the first bad one.
-/

import FieldQuery.Client.Failure

set_option autoImplicit false

namespace FieldQuery.Header

/-- A character of a name. -/
def isNameChar (c : Char) : Bool :=
  c.isAlphanum || "!#$%&'*+-.^_`|~".toList.contains c

/-- A character of a value: all but control characters, of which only the tabulator is allowed. -/
def isValueChar (c : Char) : Bool := c = '\t' || (' ' ≤ c && c ≠ '\x7f')

/-- A name: at least one character. -/
def isName (name : String) : Bool := !name.isEmpty && name.toList.all isNameChar

/-- A value. -/
def isValue (value : String) : Bool := value.toList.all isValueChar

/-- A name in lower case. -/
def lowerName (name : String) : String := String.ofList (name.toList.map Char.toLower)

/-- The value that is sent: blanks around it are not part of it. -/
def sentValue (value : String) : String := String.ofList (Text.trim value.toList)

/-- Headers added one after another, until one is bad; its name is looked at before its value. -/
def addAll : Entries String → Dictionary String → Except Failure (Dictionary String)
  | [], d => .ok d
  | (name, value) :: r, d =>
    if !isName name then .error .headerName
    else if !isValue value then .error .headerValue
    else addAll r (d.insert (lowerName name) (sentValue value))

/-- Headers by their names in lower case, or what is wrong with the first bad one. -/
def checked (headers : Entries String) : Except Failure (Dictionary String) :=
  addAll headers Dictionary.empty

end FieldQuery.Header
