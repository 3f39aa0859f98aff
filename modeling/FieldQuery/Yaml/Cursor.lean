/-
**A place in an indented text.**

In a text whose structure is its indentation, a reader has to know at every character on which line
and in which column it stands.  A cursor is what is left of the text together with that knowledge.
Beyond the end of the text it shows the null character, which no text contains.

Main definitions:

* `Yaml.Cursor` — the rest of a text, and the place where it begins;
* `Yaml.Cursor.peek`, `Yaml.Cursor.advance` — looking ahead and moving on;
* `Yaml.Cursor.span` — moving over a run of characters;
* `Yaml.isBreak`, `Yaml.isGap`, `Yaml.isStop`, `Yaml.isFlowMark` — classes of characters.
-/

set_option autoImplicit false

namespace FieldQuery.Yaml

/-! ### Classes of characters -/

/-- The character shown beyond the end. -/
def endMark : Char := '\x00'

/-- The end of a line. -/
def isBreak (c : Char) : Bool := c = '\n' || c = '\r'

/-- A blank within a line. -/
def isGap (c : Char) : Bool := c = ' ' || c = '\t'

/-- The end of a line or of the text. -/
def isLineEnd (c : Char) : Bool := isBreak c || c = endMark

/-- A blank, the end of a line or the end of the text. -/
def isStop (c : Char) : Bool := isGap c || isLineEnd c

/-- A character of a name. -/
def isWordChar (c : Char) : Bool := c.isAlphanum || c = '_' || c = '-'

/-- A mark of a collection written in brackets. -/
def isFlowMark (c : Char) : Bool := c = ',' || c = '[' || c = ']' || c = '\x7b' || c = '\x7d'

/-! ### Cursors -/

/-- The rest of a text and the place where it begins. -/
structure Cursor where
  rest : List Char
  index : Nat
  line : Nat
  column : Nat
deriving Repr, Inhabited

namespace Cursor

/-- The start of a text, which ends at its first null character. -/
def start (cs : List Char) : Cursor := ⟨cs.takeWhile (· ≠ endMark), 0, 0, 0⟩

/-- The character `k` places ahead. -/
def peek (c : Cursor) (k : Nat) : Char := c.rest.getD k endMark

/-- The character here. -/
def here (c : Cursor) : Char := c.peek 0

/-- Nothing is left. -/
def atEnd (c : Cursor) : Bool := c.rest.isEmpty

/-- One character further; only a line feed begins a new line. -/
def next (c : Cursor) : Cursor :=
  match c.rest with
  | [] => c
  | '\n' :: r => ⟨r, c.index + 1, c.line + 1, 0⟩
  | _ :: r => ⟨r, c.index + 1, c.line, c.column + 1⟩

/-- Several characters further. -/
def advance (c : Cursor) : Nat → Cursor
  | 0 => c
  | n + 1 => c.next.advance n

/-- The run of characters of a class, and the place after it. -/
def span (c : Cursor) (p : Char → Bool) : List Char × Cursor :=
  let run := c.rest.takeWhile p
  (run, c.advance run.length)

/-- The place after the run of characters of a class. -/
def skip (c : Cursor) (p : Char → Bool) : Cursor := (c.span p).2

/-- The place after the end of a line, if one is here. -/
def skipBreak (c : Cursor) : Cursor :=
  if c.here = '\r' ∧ c.peek 1 = '\n' then c.advance 2
  else if isBreak c.here then c.next
  else c

/-- The place at the end of the line, if only blanks and a comment stand before it. -/
def skipToLineEnd? (c : Cursor) : Option Cursor :=
  let c := c.skip isGap
  let c := if c.here = '#' then c.skip (fun x => !isLineEnd x) else c
  if isLineEnd c.here then some c else none

/-- Three marks that separate documents stand here, at the start of a line. -/
def atDocumentMark (c : Cursor) (mark : Char) : Bool :=
  c.column = 0 && c.peek 0 = mark && c.peek 1 = mark && c.peek 2 = mark && isStop (c.peek 3)

/-- Either kind of mark between documents stands here. -/
def atDocumentEdge (c : Cursor) : Bool := c.atDocumentMark '-' || c.atDocumentMark '.'

end Cursor

end FieldQuery.Yaml
