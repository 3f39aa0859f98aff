/-
**Scalars in an indented text.**

A scalar is plain, quoted, or a block of lines.  In each of them the ends of lines are folded: a
single one becomes a blank and of several the first is dropped, except in a literal block, which
keeps them all.  Where a scalar ends depends on how it is written, on the indentation around it,
and on whether it stands inside brackets.

Main definitions:

* `Yaml.Gap` — blanks and ends of lines between two words, and the text they fold to;
* `Yaml.plainScalar` — a scalar without marks of its own;
* `Yaml.quotedScalar` — a scalar between quotes, single or double;
* `Yaml.blockScalar` — a block of lines, literal or folded.
-/

import FieldQuery.Text.Digits
import FieldQuery.Yaml.Cursor

set_option autoImplicit false

namespace FieldQuery.Yaml

/-! ### Between two words -/

/-- What stands between two words: blanks, or ends of lines of which the first may have been
escaped. -/
structure Gap where
  blanks : List Char
  broken : Bool
  firstBreak : Bool
  moreBreaks : Nat
deriving Repr

namespace Gap

/-- Nothing between two words. -/
def none : Gap := ⟨[], false, false, 0⟩

/-- An end of line that was escaped. -/
def escapedBreak : Gap := ⟨[], true, false, 0⟩

/-- The text that a gap folds to. -/
def text (g : Gap) : List Char :=
  if g.broken then
    if g.firstBreak && g.moreBreaks == 0 then [' '] else List.replicate g.moreBreaks '\n'
  else g.blanks

/-- A blank more; after an end of line it only indents. -/
def withBlank (g : Gap) (c : Char) : Gap :=
  if g.broken then g else { g with blanks := g.blanks ++ [c] }

/-- An end of line more. -/
def withBreak (g : Gap) : Gap :=
  if g.broken then { g with moreBreaks := g.moreBreaks + 1 }
  else ⟨[], true, true, g.moreBreaks⟩

/-- The gap here and the place after it.  After an end of line, a tab left of `indent` is
refused. -/
def read (indent : Int) : Nat → Gap → Cursor → Option (Gap × Cursor)
  | 0, _, _ => Option.none
  | fuel + 1, g, c =>
    if isGap c.here then
      if g.broken && c.here = '\t' && (c.column : Int) < indent then Option.none
      else read indent fuel (g.withBlank c.here) c.next
    else if isBreak c.here then read indent fuel g.withBreak c.skipBreak
    else some (g, c)

end Gap

/-! ### Plain scalars -/

/-- The characters of a plain scalar up to a blank, an end of line or a mark. -/
def plainWord (inFlow : Bool) : List Char → List Char
  | [] => []
  | c :: r =>
    let ahead := r.headD endMark
    if isStop c then []
    else if c = ':' ∧ (isStop ahead ∨ (inFlow ∧ isFlowMark ahead)) then []
    else if inFlow ∧ isFlowMark c then []
    else c :: plainWord inFlow r

/-- A plain scalar after the text `out` and a gap: its text, whether an end of line follows it, and
the place after it.  `indent` is the least column of its lines. -/
def plainScalarFrom (inFlow : Bool) (indent : Int) :
    Nat → List Char → Gap → Cursor → Option (List Char × Bool × Cursor)
  | 0, _, _, _ => none
  | fuel + 1, out, g, c =>
    if c.atDocumentEdge || c.here = '#' then some (out, g.broken, c)
    else
      let word := plainWord inFlow c.rest
      let c := c.advance word.length
      let (out, g) := if word.isEmpty then (out, g) else (out ++ g.text ++ word, Gap.none)
      if !(isGap c.here || isBreak c.here) then some (out, g.broken, c)
      else
        match Gap.read indent (c.rest.length + 1) g c with
        | none => none
        | some (g, c) =>
          if !inFlow && (c.column : Int) < indent then some (out, g.broken, c)
          else plainScalarFrom inFlow indent fuel out g c

/-- A scalar without marks of its own. -/
def plainScalar (inFlow : Bool) (indent : Int) (c : Cursor) :
    Option (List Char × Bool × Cursor) :=
  plainScalarFrom inFlow indent (c.rest.length + 1) [] Gap.none c

/-! ### Quoted scalars -/

/-- The character that a letter after a backslash stands for. -/
def escapeChar? (c : Char) : Option Char :=
  match c with
  | '0' => some '\x00'
  | 'a' => some '\x07'
  | 'b' => some '\x08'
  | 't' => some '\t'
  | '\t' => some '\t'
  | 'n' => some '\n'
  | 'v' => some '\x0b'
  | 'f' => some '\x0c'
  | 'r' => some '\r'
  | 'e' => some '\x1b'
  | ' ' => some ' '
  | '"' => some '"'
  | '\'' => some '\''
  | '\\' => some '\\'
  | 'N' => some '\u0085'
  | '_' => some '\u00a0'
  | 'L' => some '\u2028'
  | 'P' => some '\u2029'
  | _ => none

/-- How many hexadecimal digits follow a letter after a backslash. -/
def escapeDigits? (c : Char) : Option Nat :=
  match c with
  | 'x' => some 2
  | 'u' => some 4
  | 'U' => some 8
  | _ => none

/-- The character with a number given in hexadecimal digits. -/
def charOfHex? (digits : List Char) : Option Char := do
  let n ← Text.natural? 16 digits
  if n.isValidChar then some (Char.ofNat n) else none

/-- The characters of a quoted scalar up to a blank, an end of line or its closing quote, and the
place after them; an escaped end of line is passed, and said so. -/
def quotedWord (single : Bool) : Nat → List Char → Cursor → Option (List Char × Bool × Cursor)
  | 0, _, _ => none
  | fuel + 1, out, c =>
    let x := c.here
    if isStop x then some (out, false, c)
    else if single then
      if x = '\'' then
        if c.peek 1 = '\'' then quotedWord single fuel (out ++ ['\'']) (c.advance 2)
        else some (out, false, c)
      else quotedWord single fuel (out ++ [x]) c.next
    else if x = '"' then some (out, false, c)
    else if x = '\\' then
      if isBreak (c.peek 1) then some (out, true, c.next.skipBreak)
      else
        match escapeDigits? (c.peek 1) with
        | some n =>
          let digits := (c.advance 2).rest.take n
          if digits.length < n then none
          else
            match charOfHex? digits with
            | some y => quotedWord single fuel (out ++ [y]) (c.advance (2 + n))
            | none => none
        | none =>
          match escapeChar? (c.peek 1) with
          | some y => quotedWord single fuel (out ++ [y]) (c.advance 2)
          | none => none
    else quotedWord single fuel (out ++ [x]) c.next

/-- A quoted scalar after the text `out`. -/
def quotedScalarFrom (single : Bool) : Nat → List Char → Cursor → Option (List Char × Cursor)
  | 0, _, _ => none
  | fuel + 1, out, c =>
    if c.atDocumentEdge || c.atEnd then none
    else
      match quotedWord single (c.rest.length + 1) out c with
      | none => none
      | some (out, escaped, c) =>
        if c.here = (if single then '\'' else '"') then some (out, c.next)
        else
          let g := if escaped then Gap.escapedBreak else Gap.none
          match Gap.read (-1) (c.rest.length + 1) g c with
          | none => none
          | some (g, c) => quotedScalarFrom single fuel (out ++ g.text) c

/-- A scalar whose opening quote is here. -/
def quotedScalar (single : Bool) (c : Cursor) : Option (List Char × Cursor) :=
  quotedScalarFrom single (c.rest.length + 1) [] c.next

/-! ### Blocks of lines -/

/-- What becomes of the ends of lines at the end of a block. -/
inductive Chomping where
  | strip
  | clip
  | keep
deriving DecidableEq, Repr

/-- The sign of a header, and the place after it. -/
def blockSign (c : Cursor) : Option Chomping × Cursor :=
  if c.here = '+' then (some .keep, c.next)
  else if c.here = '-' then (some .strip, c.next)
  else (none, c)

/-- The digit of a header, nought where there is none, and the place after it; the digit nought is
refused. -/
def blockDigit (c : Cursor) : Option (Nat × Cursor) :=
  if c.here = '0' then none
  else if c.here.isDigit then some (c.here.toNat - 48, c.next)
  else some (0, c)

/-- The header of a block: a sign and a digit in either order. -/
def blockHeader (c : Cursor) : Option (Chomping × Nat × Cursor) :=
  match blockSign c with
  | (some chomping, c) => (blockDigit c).map fun (n, c) => (chomping, n, c)
  | (none, c) =>
    match blockDigit c with
    | none => none
    | some (0, c) => some (.clip, 0, c)
    | some (n, c) =>
      let (chomping, c) := blockSign c
      some (chomping.getD .clip, n, c)

/-- The empty lines here: their number, the greatest column reached, and the place after them and
after the indentation of the next line.  An indentation of nought is not known yet. -/
def emptyLines (indent : Nat) : Nat → Nat → Nat → Cursor → Option (Nat × Nat × Cursor)
  | 0, _, _, _ => none
  | fuel + 1, breaks, widest, c =>
    let blanks := (c.rest.takeWhile (· = ' ')).length
    let c := c.advance (if indent = 0 then blanks else min blanks (indent - c.column))
    let widest := max widest c.column
    if (indent = 0 ∨ c.column < indent) ∧ c.here = '\t' then none
    else if isBreak c.here then emptyLines indent fuel (breaks + 1) widest c.skipBreak
    else some (breaks, widest, c)

/-- The empty lines here and the indentation of the block, found where it is not known yet.
`outer` is the indentation around the block. -/
def blockEmptyLines (outer : Int) (indent : Nat) (c : Cursor) : Option (Nat × Nat × Cursor) :=
  (emptyLines indent (c.rest.length + 1) 0 0 c).map fun (breaks, widest, c) =>
    (breaks, if indent = 0 then max (max widest (outer + 1).toNat) 1 else indent, c)

/-- The lines of a block after the text `out`.  `lineBreak` says that an end of line is pending,
`blankBefore` that the line before it began with a blank, and `breaks` is the number of empty lines
after it. -/
def blockLines (literal : Bool) (outer : Int) (indent : Nat) (chomping : Chomping) :
    Nat → List Char → Bool → Bool → Nat → Cursor → Option (List Char × Cursor)
  | 0, _, _, _, _, _ => none
  | fuel + 1, out, lineBreak, blankBefore, breaks, c =>
    let finish (out : List Char) (lineBreak : Bool) (breaks : Nat) : List Char :=
      out ++ (if lineBreak && chomping ≠ .strip then ['\n'] else []) ++
        (if chomping = .keep then List.replicate breaks '\n' else [])
    if c.column ≠ indent ∨ c.atEnd then some (finish out lineBreak breaks, c)
    else
      let blank := isGap c.here
      let joint :=
        if !literal && lineBreak && !blankBefore && !blank then
          if breaks = 0 then [' '] else []
        else if lineBreak then ['\n'] else []
      let (line, c) := c.span fun x => !isLineEnd x
      let out := out ++ joint ++ List.replicate breaks '\n' ++ line
      if c.atEnd then some (finish out false 0, c)
      else
        match blockEmptyLines outer indent c.skipBreak with
        | none => none
        | some (breaks, _, c) =>
          blockLines literal outer indent chomping fuel out true blank breaks c

/-- A block whose mark is here, inside the indentation `outer`. -/
def blockScalar (literal : Bool) (outer : Int) (c : Cursor) : Option (List Char × Cursor) := do
  let (chomping, digit, c) ← blockHeader c.next
  let c ← c.skipToLineEnd?
  let c := c.skipBreak
  let indent := if digit = 0 then 0 else if 0 ≤ outer then outer.toNat + digit else digit
  let (breaks, indent, c) ← blockEmptyLines outer indent c
  blockLines literal outer indent chomping (c.rest.length + 1) [] false false breaks c

end FieldQuery.Yaml
