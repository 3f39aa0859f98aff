/-
**What can be wrong with a text.**

A text that is no document either breaks a rule or ends too early, and the two are told apart: a
text that ends too early may be the beginning of a good one.  Some texts can be passed over and yet
not be read, such as a number that is out of range, and some break a different rule when they are
passed over; a fault says both.

Main definitions:

* `Json.Flaw` — malformed or truncated;
* `Json.Fault` — the flaw met in reading, and the flaw met in passing over, if any.
-/

set_option autoImplicit false

namespace FieldQuery.Json

/-- Why a text is no document. -/
inductive Flaw where
  | malformed
  | truncated
deriving DecidableEq, Repr

/-- Why a value cannot be read; `skipping` says why it cannot even be passed over. -/
structure Fault where
  reading : Flaw
  skipping : Option Flaw
deriving DecidableEq, Repr

/-- A fault that is the same in reading and in passing over. -/
def Fault.both (f : Flaw) : Fault := ⟨f, some f⟩

/-- A fault of a value that can be passed over. -/
def Fault.onlyReading (f : Flaw) : Fault := ⟨f, none⟩

/-- The flaw at the end of the text, where it has ended, or at a character that does not fit. -/
def Flaw.at : List Char → Flaw
  | [] => .truncated
  | _ :: _ => .malformed

end FieldQuery.Json
