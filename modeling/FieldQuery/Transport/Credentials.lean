/-
**Users named in addresses.**

The authority of an address may begin with the name of a user, and a password behind a colon, up to
the last `@`.  Neither is asked for there: they are put into a header.  Both are written with
percent signs; a name that is no text then is no name, and a password that is none is left out.

Main definitions:

* `Credentials` — a name and a password;
* `Credentials.ofText?` — those that stand before the `@`, if any do;
* `Credentials.header` — the value of the header that carries them.
-/

import FieldQuery.Text.Base64
import FieldQuery.Text.Cut
import FieldQuery.Text.Encoding
import FieldQuery.Text.Percent

set_option autoImplicit false

namespace FieldQuery

/-- A name and a password, which may be empty. -/
structure Credentials where
  name : String
  password : String
deriving DecidableEq, Repr

namespace Credentials

/-- What stands before the `@`; a name and a password that are both empty are none. -/
def ofText? (cs : List Char) : Option Credentials := do
  let (nameText, passwordText) := (Text.cutAt ':' cs).getD (cs, [])
  let name ← Text.utf8? (Text.percentBytes nameText)
  let password := (Text.utf8? (Text.percentBytes passwordText)).getD ""
  if name.isEmpty && password.isEmpty then none else return ⟨name, password⟩

/-- The value of the header that carries them. -/
def header (c : Credentials) : String :=
  let bytes := (c.name.toList ++ ':' :: c.password.toList).flatMap String.utf8EncodeChar
  String.ofList ("Basic ".toList ++ Text.base64 bytes)

/-- Percent signs are read before the two are put into the header. -/
example : (ofText? "o%3Aa:p%40b".toList).map header = some "Basic bzphOnBAYg==" := by
  decide +kernel

end Credentials

end FieldQuery
