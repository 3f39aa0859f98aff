/-
**Tokens of an indented text.**

Apart from scalars, a text consists of marks of collections and of properties: the name of an
anchor, the use of one, and tags.  A tag has a handle and a suffix; lines of directives may precede
a document and say nothing that matters here.

Main definitions:

* `Yaml.Tag`, `Yaml.Token` — tags and tokens;
* `Yaml.Cursor.anchorName?` — the name of an anchor or of its use;
* `Yaml.Cursor.tag?` — a tag;
* `Yaml.Cursor.directive?` — a line with a directive.
-/

import FieldQuery.Yaml.Scalar

set_option autoImplicit false

namespace FieldQuery.Yaml

/-- What kind of value a scalar is said to be. -/
structure Tag where
  handle : List Char
  suffix : List Char
deriving DecidableEq, Repr

/-- A part of a text. -/
inductive Token where
  | directive
  | documentStart
  | documentEnd
  | blockSequence
  | blockMapping
  | blockEnd
  | flowSequence
  | flowSequenceEnd
  | flowMapping
  | flowMappingEnd
  | blockEntry
  | flowEntry
  | key
  | value
  | anchorUse (name : List Char)
  | anchor (name : List Char)
  | tag (tag : Tag)
  | scalar (plain : Bool) (text : List Char)
deriving DecidableEq, Repr

namespace Cursor

/-! ### Anchors -/

/-- A character that may follow the name of an anchor. -/
def endsAnchor (c : Char) : Bool :=
  isStop c || c = '?' || c = ':' || c = ',' || c = ']' || c = '\x7d' || c = '%' || c = '@' ||
    c = '\x60'

/-- The name after the mark of an anchor, and the place after it. -/
def anchorName? (c : Cursor) : Option (List Char × Cursor) :=
  let (name, c) := c.next.span isWordChar
  if name.isEmpty || !endsAnchor c.here then none else some (name, c)

/-! ### Tags -/

/-- A character that may stand in a tag, the percent sign of an escape included. -/
def isUriChar (c : Char) : Bool :=
  isWordChar c || [';', '/', '?', ':', '@', '&', '=', '+', '$', ',', '.', '!', '~', '*', '\'',
    '(', ')', '[', ']', '%'].contains c

/-- How many bytes an escaped character has, by the first of them. -/
def escapedLength? (first : Nat) : Option Nat :=
  if first < 0x80 then some 1
  else if first / 0x20 = 6 then some 2
  else if first / 0x10 = 14 then some 3
  else if first / 0x8 = 30 then some 4
  else none

/-- The byte of an escape here. -/
def escapedByte? (c : Cursor) : Option Nat :=
  if c.here = '%' then Text.natural? 16 [c.peek 1, c.peek 2] else none

/-- The bytes that complete an escaped character, as one number with eight bits for each. -/
def moreEscapedBytes : Nat → Nat → Cursor → Option (Nat × Cursor)
  | 0, code, c => some (code, c)
  | n + 1, code, c =>
    match escapedByte? c with
    | some b => if b / 0x40 = 2 then moreEscapedBytes n (code * 256 + b) (c.advance 3) else none
    | none => none

/-- An escaped character; its bytes side by side are its number. -/
def escapedChar? (c : Cursor) : Option (Char × Cursor) := do
  let first ← escapedByte? c
  let length ← escapedLength? first
  let (code, c) ← moreEscapedBytes (length - 1) first (c.advance 3)
  if code.isValidChar then some (Char.ofNat code, c) else none

/-- The characters of a tag, and the place after them. -/
def uriFrom : Nat → List Char → Cursor → Option (List Char × Cursor)
  | 0, _, _ => none
  | fuel + 1, out, c =>
    if !isUriChar c.here then some (out, c)
    else if c.here = '%' then
      match escapedChar? c with
      | some (x, c) => uriFrom fuel (out ++ [x]) c
      | none => none
    else uriFrom fuel (out ++ [c.here]) c.next

/-- The characters of a tag after a head of which the first character does not count. -/
def uri? (head : List Char) (c : Cursor) : Option (List Char × Cursor) := do
  let (text, c') ← uriFrom (c.rest.length + 1) (head.drop 1) c
  if head.isEmpty && c'.index = c.index then none else some (text, c')

/-- A handle: an exclamation mark, a name, and a second mark if there is one. -/
def handle? (c : Cursor) : Option (List Char × Cursor) :=
  if c.here ≠ '!' then none
  else
    let (name, c) := c.next.span isWordChar
    if c.here = '!' then some ('!' :: name ++ ['!'], c.next) else some ('!' :: name, c)

/-- A tag between angle brackets. -/
def verbatimTag? (c : Cursor) : Option (Tag × Cursor) := do
  let (suffix, c) ← uri? [] (c.advance 2)
  if c.here = '>' then some (⟨[], suffix⟩, c.next) else none

/-- A tag with a handle. -/
def shortTag? (c : Cursor) : Option (Tag × Cursor) := do
  let (handle, c) ← handle? c
  if 2 ≤ handle.length ∧ handle.getLast? = some '!' then
    let (suffix, c) ← uri? [] c
    return (⟨handle, suffix⟩, c)
  else
    let (suffix, c) ← uri? handle c
    return (if suffix.isEmpty then ⟨[], ['!']⟩ else ⟨['!'], suffix⟩, c)

/-- A tag and the place after it. -/
def tag? (c : Cursor) : Option (Tag × Cursor) := do
  let (tag, c) ← if c.peek 1 = '<' then verbatimTag? c else shortTag? c
  if isStop c.here then some (tag, c) else none

/-! ### Directives -/

/-- A number of at most nine digits. -/
def versionNumber? (c : Cursor) : Option Cursor :=
  let (digits, c) := c.span Char.isDigit
  if digits.isEmpty || 9 < digits.length then none else some c

/-- Two numbers with a point between them. -/
def version? (c : Cursor) : Option Cursor := do
  let c ← versionNumber? (c.skip isGap)
  if c.here = '.' then versionNumber? c.next else none

/-- A handle and what it stands for. -/
def handleMeaning? (c : Cursor) : Option Cursor := do
  let (handle, c) ← handle? (c.skip isGap)
  if handle ≠ ['!'] ∧ handle.getLast? ≠ some '!' then none
  else
    let (_, c) ← uri? [] (c.skip isGap)
    if isStop c.here then some c else none

/-- The place after the line with a directive that begins here. -/
def directive? (c : Cursor) : Option Cursor := do
  let (name, c) := c.next.span isWordChar
  if name.isEmpty || !isStop c.here then none
  else
    let c ←
      if name = ['Y', 'A', 'M', 'L'] then version? c
      else if name = ['T', 'A', 'G'] then handleMeaning? c
      else some (c.skip fun x => !isLineEnd x)
    let c ← c.skipToLineEnd?
    return c.skipBreak

end Cursor

end FieldQuery.Yaml
