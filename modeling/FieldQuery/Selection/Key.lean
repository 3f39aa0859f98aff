/-
**Keys of a selection.**

The key of a selected field may be written in full, with an alias before a colon and arguments in
parentheses.  What the field is called is what is left without them, and looking for it must not
depend on how often it has been done: a purified key is purified already.

Main definitions:

* `Key.withoutGroups` — a key without its parenthesised groups;
* `Key.purify` — the bare name;
* `Key.isInlineFragment` — the key of a fragment that stands in place.

Main results:

* `Key.not_mem_colon_purify` — no colon is left in a purified key.
-/

import FieldQuery.Text.Blank
import FieldQuery.Text.Cut

set_option autoImplicit false

namespace FieldQuery.Key

/-! ### Groups -/

mutual

/-- A key without the groups that run from an opening parenthesis to the next closing one. -/
def withoutGroups : List Char → List Char
  | [] => []
  | c :: r => if c = '(' ∧ ')' ∈ r then afterGroup r else c :: withoutGroups r

/-- What is kept of a key that begins inside a group. -/
def afterGroup : List Char → List Char
  | [] => []
  | c :: r => if c = ')' then withoutGroups r else afterGroup r

end

/-! ### Bare names -/

/-- The characters of a bare name: no groups, nothing up to the last colon, no outer blanks. -/
def purifyChars (cs : List Char) : List Char :=
  Text.trim (Text.afterLast ':' (withoutGroups cs))

/-- The bare name of a key. -/
def purify (key : String) : String := String.ofList (purifyChars key.toList)

theorem mem_of_mem_trim {c : Char} {cs : List Char} (h : c ∈ Text.trim cs) : c ∈ cs := by
  unfold Text.trim Text.trimEnd Text.trimStart at h
  rw [List.mem_reverse] at h
  have h₁ := (List.dropWhile_suffix _).subset h
  rw [List.mem_reverse] at h₁
  exact (List.dropWhile_suffix _).subset h₁

/-- No colon is left in a purified key. -/
theorem not_mem_colon_purify (key : String) : ':' ∉ (purify key).toList := by
  rw [purify, String.toList_ofList]
  exact fun h => Text.not_mem_afterLast ':' _ (mem_of_mem_trim h)

/-! ### Fragments -/

/-- The key of a fragment that stands in place and opens no level of the response. -/
def isInlineFragment (key : String) : Bool :=
  ['.', '.', '.'].isPrefixOf (Text.trimStart key.toList)

end FieldQuery.Key
