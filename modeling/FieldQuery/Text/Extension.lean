/-
**File names.**

The form of a file is told by the extension of its name.

Main definitions:

* `Text.fileName` — the last part of a path;
* `Text.extension?` — what follows the last dot of the name.
-/

import FieldQuery.Text.Cut

set_option autoImplicit false

namespace FieldQuery.Text

/-- The last part of a path that is more than a dot. -/
def fileName (path : List Char) : List Char :=
  ((solidPieces '/' path).filter (· ≠ ['.'])).getLast?.getD []

/-- The name before its last dot and what follows it. -/
def cutAtLastDot (name : List Char) : Option (List Char × List Char) :=
  (cutAt '.' name.reverse).map fun (after, before) => (before.reverse, after.reverse)

/-- What follows the last dot of the name of a file; a dot that begins the name does not count. -/
def extension? (path : List Char) : Option (List Char) :=
  let name := fileName path
  if name = ['.', '.'] then none
  else
    match cutAtLastDot name with
    | some (_ :: _, e) => some e
    | _ => none

end FieldQuery.Text
