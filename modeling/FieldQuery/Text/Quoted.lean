/-
**Quoted texts in messages.**

A message that names a text it was given shows it between double quotes.  Quotes, backslashes and
the usual controls are escaped by a letter, and a character that does not show is written as its
number in braces, so that two different texts never look alike.

Main definitions:

* `Text.quotedChar` — one character as it stands between the quotes;
* `Text.quoted` — the whole text with its quotes.
-/

import FieldQuery.Text.Hidden

set_option autoImplicit false

namespace FieldQuery.Text

/-- One character of a quoted text. -/
def quotedChar (c : Char) : List Char :=
  if c = '"' then ['\\', '"']
  else if c = '\\' then ['\\', '\\']
  else if c = '\n' then ['\\', 'n']
  else if c = '\r' then ['\\', 'r']
  else if c = '\t' then ['\\', 't']
  else if c = '\x00' then ['\\', '0']
  else if isHidden c then ['\\', 'u', '\x7b'] ++ Nat.toDigits 16 c.toNat ++ ['\x7d']
  else [c]

/-- A text between double quotes, with everything escaped that would not show. -/
def quoted (s : String) : String :=
  String.ofList ('"' :: s.toList.flatMap quotedChar ++ ['"'])

end FieldQuery.Text
