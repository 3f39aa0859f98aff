/-
**From a text to its tokens.**

The beginning and the end of a block are not written; they follow from the columns in which things
stand.  Nor does the key of an entry announce itself: it is known for a key only when the colon is
met, so what might be a key is remembered, and the tokens that a key needs are put in front of it
later.

Main definitions:

* `Yaml.Candidate` — something that might be a key;
* `Yaml.Layout` — the state of a text that is being cut into tokens;
* `Yaml.Layout.step` — one token more;
* `Yaml.tokens?` — all tokens of a text.
-/

import FieldQuery.Yaml.Token

set_option autoImplicit false

namespace FieldQuery.Yaml

/-- Something that might be a key: where it stands, how many tokens came before it, and whether it
has to be one. -/
structure Candidate where
  possible : Bool
  required : Bool
  position : Nat
  index : Nat
  line : Nat
  column : Nat
deriving Repr, Inhabited

/-- Nothing that might be a key. -/
def Candidate.none : Candidate := ⟨false, false, 0, 0, 0, 0⟩

/-- The state of a text that is being cut into tokens.  `candidate` belongs to the innermost
brackets and `outerCandidates` to those around them; `indent` is the column of the innermost block
and `outerIndents` are those around it; `adjacentAt` is where a value may follow a quoted key
without a blank. -/
structure Layout where
  cursor : Cursor
  tokens : Array Token
  keyAllowed : Bool
  candidate : Candidate
  outerCandidates : List Candidate
  indent : Int
  outerIndents : List Int
  flowLevel : Nat
  adjacentAt : Nat
deriving Inhabited

namespace Layout

/-- The state before the first token. -/
def start (cs : List Char) : Layout :=
  ⟨Cursor.start cs, #[], true, .none, [], -1, [], 0, 0⟩

/-- The text stands inside brackets. -/
def inFlow (s : Layout) : Bool := 0 < s.flowLevel

/-! ### Tokens and blocks -/

/-- A token more at the end. -/
def push (s : Layout) (t : Token) : Layout := { s with tokens := s.tokens.push t }

/-- A token more after the first `n`. -/
def insertAt (s : Layout) (n : Nat) (t : Token) : Layout :=
  { s with tokens := (s.tokens.extract 0 n).push t ++ s.tokens.extract n s.tokens.size }

/-- The place moved on. -/
def moveTo (s : Layout) (c : Cursor) : Layout := { s with cursor := c }

/-- A block opened at a column to the right of the block around it; its token goes after the first
`n`, or to the end. -/
def openBlock (s : Layout) (column : Nat) (n : Option Nat) (t : Token) : Layout :=
  if s.inFlow || (column : Int) ≤ s.indent then s
  else
    let s := { s with outerIndents := s.indent :: s.outerIndents, indent := column }
    match n with
    | some n => s.insertAt n t
    | none => s.push t

/-- The blocks to the right of a column, with the indentation that is left. -/
def blocksBeyond (column : Int) : Int → List Int → Nat × Int × List Int
  | indent, [] => (0, indent, [])
  | indent, outer :: r =>
    if column < indent then
      let (n, rest) := blocksBeyond column outer r
      (n + 1, rest)
    else (0, indent, outer :: r)

/-- The blocks to the right of a column closed. -/
def closeBlocks (s : Layout) (column : Int) : Layout :=
  if s.inFlow then s
  else
    let (n, indent, outer) := blocksBeyond column s.indent s.outerIndents
    { s with
      tokens := s.tokens ++ Array.replicate n Token.blockEnd
      indent := indent
      outerIndents := outer }

/-! ### Keys -/

/-- Whether a key may begin here. -/
def allowKey (s : Layout) (b : Bool) : Layout := { s with keyAllowed := b }

/-- The candidate is given up; one that had to be a key is an error. -/
def dropCandidate (s : Layout) : Option Layout :=
  if s.candidate.possible && s.candidate.required then none
  else some { s with candidate := { s.candidate with possible := false } }

/-- What stands here becomes the candidate, if a key may begin here. -/
def saveCandidate (s : Layout) : Option Layout :=
  if s.keyAllowed then do
    let required := s.inFlow && s.indent = s.cursor.column
    let s ← s.dropCandidate
    return { s with candidate := ⟨true, required, s.tokens.size, s.cursor.index, s.cursor.line,
      s.cursor.column⟩ }
  else some s

/-- A candidate at a later place: none on an earlier line or too far away can be a key. -/
def staleCandidate (c : Cursor) (k : Candidate) : Option Candidate :=
  if k.possible && (k.line < c.line || k.index + 1024 < c.index) then
    if k.required then none else some { k with possible := false }
  else some k

/-- All candidates at the present place. -/
def dropStale (s : Layout) : Option Layout := do
  let outer ← s.outerCandidates.mapM (staleCandidate s.cursor)
  let k ← staleCandidate s.cursor s.candidate
  return { s with candidate := k, outerCandidates := outer }

/-! ### Between tokens -/

/-- The state at the next token: blanks, ends of lines and comments are passed. -/
def skipGaps : Nat → Layout → Layout
  | 0, s => s
  | fuel + 1, s =>
    let c := s.cursor
    if c.here = ' ' then skipGaps fuel (s.moveTo c.next)
    else if c.here = '\t' ∧ (s.inFlow ∨ !s.keyAllowed) then skipGaps fuel (s.moveTo c.next)
    else if isBreak c.here then
      let s := s.moveTo c.skipBreak
      skipGaps fuel (if s.inFlow then s else s.allowKey true)
    else if c.here = '#' then skipGaps fuel (s.moveTo (c.skip fun x => !isLineEnd x))
    else s

/-! ### Kinds of tokens -/

/-- A mark that ends all blocks. -/
def fetchOuter (s : Layout) (t : Token) (after : Cursor → Option Cursor) : Option Layout := do
  let s ← (s.closeBlocks (-1)).dropCandidate
  let c ← after s.cursor
  return ((s.allowKey false).push t).moveTo c

/-- The greatest number of brackets inside each other. -/
def greatestFlowLevel : Nat := 255

/-- An opening bracket. -/
def fetchFlowStart (s : Layout) (t : Token) : Option Layout := do
  let s ← s.saveCandidate
  if greatestFlowLevel ≤ s.flowLevel then none
  else
    return { s with
      outerCandidates := s.candidate :: s.outerCandidates
      candidate := .none
      flowLevel := s.flowLevel + 1
      keyAllowed := true
      cursor := s.cursor.next
      tokens := s.tokens.push t }

/-- A closing bracket. -/
def fetchFlowEnd (s : Layout) (t : Token) : Option Layout := do
  let s ← s.dropCandidate
  let s :=
    match s.outerCandidates with
    | k :: r => { s with candidate := k, outerCandidates := r, flowLevel := s.flowLevel - 1 }
    | [] => s
  return ((s.allowKey false).push t).moveTo s.cursor.next

/-- A comma between brackets. -/
def fetchFlowEntry (s : Layout) : Option Layout := do
  let s ← s.dropCandidate
  return ((s.allowKey true).push .flowEntry).moveTo s.cursor.next

/-- The dash of an entry. -/
def fetchBlockEntry (s : Layout) : Option Layout :=
  if s.inFlow || !s.keyAllowed then none
  else do
    let s ← (s.openBlock s.cursor.column none .blockSequence).dropCandidate
    return ((s.allowKey true).push .blockEntry).moveTo s.cursor.next

/-- The mark of a key. -/
def fetchKey (s : Layout) : Option Layout :=
  if !s.inFlow && !s.keyAllowed then none
  else do
    let s ← (s.openBlock s.cursor.column none .blockMapping).dropCandidate
    return ((s.allowKey !s.inFlow).push .key).moveTo s.cursor.next

/-- The colon of a value; what was remembered as a candidate is now known for a key. -/
def fetchValue (s : Layout) : Option Layout :=
  let k := s.candidate
  let after (s : Layout) : Layout := (s.push .value).moveTo s.cursor.next
  if k.possible then
    let s := (s.insertAt k.position .key).openBlock k.column (some k.position) .blockMapping
    some (after ({ s with candidate := { k with possible := false } }.allowKey false))
  else if s.inFlow then some (after (s.allowKey false))
  else if !s.keyAllowed then none
  else some (after ((s.openBlock s.cursor.column none .blockMapping).allowKey true))

/-- A token that might be a key and is read as a whole. -/
def fetchNode (s : Layout) (keyAfter : Bool) (read : Cursor → Option (Token × Cursor)) :
    Option Layout := do
  let s ← s.saveCandidate
  let (t, c) ← read s.cursor
  return ((s.allowKey keyAfter).push t).moveTo c

/-- A scalar between quotes, after which a value may follow at once. -/
def fetchQuoted (s : Layout) (single : Bool) : Option Layout := do
  let s ← s.fetchNode false fun c =>
    (quotedScalar single c).map fun (text, c) => (.scalar false text, c)
  return { s with adjacentAt := s.cursor.index }

/-- A scalar without marks; if its line has ended, a key may follow. -/
def fetchPlain (s : Layout) : Option Layout := do
  let s ← s.saveCandidate
  let (text, broken, c) ← plainScalar s.inFlow (s.indent + 1) s.cursor
  return ((s.allowKey broken).push (.scalar true text)).moveTo c

/-- A block of lines. -/
def fetchBlock (s : Layout) (literal : Bool) : Option Layout :=
  s.fetchNode true fun c =>
    (blockScalar literal s.indent c).map fun (text, c) => (.scalar false text, c)

/-- The token that begins with the character here. -/
def fetch (s : Layout) : Option Layout :=
  let c := s.cursor
  let x := c.here
  let ahead := c.peek 1
  if c.column = 0 ∧ x = '%' then s.fetchOuter .directive Cursor.directive?
  else if c.atDocumentMark '-' then s.fetchOuter .documentStart fun c => some (c.advance 3)
  else if c.atDocumentMark '.' then s.fetchOuter .documentEnd fun c => some (c.advance 3)
  else if x = '[' then s.fetchFlowStart .flowSequence
  else if x = '\x7b' then s.fetchFlowStart .flowMapping
  else if x = ']' then s.fetchFlowEnd .flowSequenceEnd
  else if x = '\x7d' then s.fetchFlowEnd .flowMappingEnd
  else if x = ',' then s.fetchFlowEntry
  else if x = '-' ∧ isStop ahead then s.fetchBlockEntry
  else if x = '?' ∧ isStop ahead then s.fetchKey
  else if x = ':' ∧ (isStop ahead ∨ (s.inFlow ∧ (isFlowMark ahead ∨ c.index = s.adjacentAt))) then
    s.fetchValue
  else if x = '*' then s.fetchNode false fun c =>
    c.anchorName?.map fun (name, c) => (.anchorUse name, c)
  else if x = '&' then s.fetchNode false fun c =>
    c.anchorName?.map fun (name, c) => (.anchor name, c)
  else if x = '!' then s.fetchNode false fun c => c.tag?.map fun (tag, c) => (.tag tag, c)
  else if x = '|' ∧ !s.inFlow then s.fetchBlock true
  else if x = '>' ∧ !s.inFlow then s.fetchBlock false
  else if x = '\'' then s.fetchQuoted true
  else if x = '"' then s.fetchQuoted false
  else if x = '%' ∨ x = '@' ∨ x = '\x60' then none
  else s.fetchPlain

/-- One token more, or the end of the text. -/
def step (s : Layout) : Option (Layout × Bool) := do
  let s ← (skipGaps (s.cursor.rest.length + 1) s).dropStale
  let s := s.closeBlocks s.cursor.column
  if s.cursor.atEnd then
    let s ← (s.closeBlocks (-1)).dropCandidate
    return (s, true)
  else
    let s ← s.fetch
    return (s, false)

/-- All tokens from a state on. -/
def run : Nat → Layout → Option (List Token)
  | 0, _ => none
  | fuel + 1, s =>
    match s.step with
    | none => none
    | some (s, true) => some s.tokens.toList
    | some (s, false) => run fuel s

end Layout

/-- All tokens of a text; none where the text breaks a rule. -/
def tokens? (cs : List Char) : Option (List Token) :=
  Layout.run (2 * cs.length + 2) (Layout.start cs)

end FieldQuery.Yaml
