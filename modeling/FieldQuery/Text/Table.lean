/-
**Tables of characters.**

What a standard says of single characters fills a table.  Such a table is written here as lines of
hexadecimal numbers with blanks between them.  Numbers that belong together have hyphens between
them and make an entry.  A number with an equals sign behind it is no entry: it begins a section,
and says what the entries behind it have in common.

Main definitions:

* `Text.entries` — the entries of lines without sections;
* `Text.Section`, `Text.sections` — a section, and the sections of lines;
* `Text.covers`, `Text.headOf?` — a number in a range, and the head of the section with a range that
  it is in.
-/

import FieldQuery.Text.Cut
import FieldQuery.Text.Digits

set_option autoImplicit false

namespace FieldQuery.Text

/-! ### Lines -/

/-- The words of lines. -/
def words (lines : List String) : List (List Char) :=
  lines.flatMap fun line => solidPieces ' ' line.toList

/-- The numbers of an entry. -/
def entry (word : List Char) : List Nat := (pieces '-' word).filterMap (natural? 16)

/-- The entries of lines without sections. -/
def entries (lines : List String) : List (List Nat) := (words lines).map entry

/-! ### Sections -/

/-- Entries of a table and what they have in common. -/
structure Section where
  head : Nat
  entries : List (List Nat)
deriving DecidableEq, Repr

/-- The entries in front of the first section, and the sections. -/
def sectionsOf : List (List Char) → List (List Nat) × List Section
  | [] => ([], [])
  | word :: r =>
    let (front, sections) := sectionsOf r
    match cutAt '=' word with
    | some (head, _) => ([], ⟨(natural? 16 head).getD 0, front⟩ :: sections)
    | none => (entry word :: front, sections)

/-- The sections of lines. -/
def sections (lines : List String) : List Section := (sectionsOf (words lines)).2

/-! ### Ranges -/

/-- An entry of one number is that number, and one of two numbers is a range with both its ends. -/
def covers : List Nat → Nat → Bool
  | [a], n => n = a
  | [a, b], n => a ≤ n && n ≤ b
  | _, _ => false

/-- The head of the section with a range that a number is in. -/
def headOf? (table : List Section) (n : Nat) : Option Nat :=
  (table.find? fun s => s.entries.any (covers · n)).map Section.head

example : sections ["7= 30-32 41", "B= 61 70-7A"] =
    [⟨7, [[0x30, 0x32], [0x41]]⟩, ⟨0xB, [[0x61], [0x70, 0x7A]]⟩] := by
  decide

end FieldQuery.Text
