/-
**The outline of a text.**

Not every reader of a document wants all of it: one that looks for a few members passes over the
rest, and passing over forgives faults that reading does not.  A text is therefore first turned
into its outline, a tree that keeps every fault at its place; what a reader makes of the outline
decides which fault, if any, is reported.

Main definitions:

* `Json.Outline` — values, unreadable values, and the place where an array or an object breaks off;
* `Json.outlineOf` — the outline of a whole text, with the flaw of what follows it;
* `Json.Outline.skip` — the flaw met in passing over a value;
* `Json.Outline.content` — the content, repeated names included, or the first flaw met in reading;
* `Json.Outline.ofJson` — the outline of a document that is held already.

Main results:

* `Json.Outline.skip_ofJson`, `Json.Outline.content_ofJson` — a document that is held can be passed
  over and has itself as its content.
-/

import FieldQuery.Json.Basic
import FieldQuery.Json.Numeral
import FieldQuery.Json.Literal

set_option autoImplicit false

namespace FieldQuery.Json

/-- A value as it stands in a text.  A name that cannot be read carries its flaw, and `stop` is the
fault at which an array or an object breaks off. -/
inductive Outline where
  | null
  | bool (b : Bool)
  | number (n : Number)
  | string (s : String)
  | array (items : List Outline) (stop : Option Fault)
  | object (members : List (Except Flaw String × Outline)) (stop : Option Fault)
  | unreadable (fault : Fault)
deriving Inhabited

namespace Outline

/-! ### Passing over a value -/

mutual

/-- The flaw met in passing over a value. -/
def skip : Outline → Option Flaw
  | array items stop => (skipItems items).or (stop.bind Fault.skipping)
  | object members stop => (skipMembers members).or (stop.bind Fault.skipping)
  | unreadable fault => fault.skipping
  | _ => none

/-- The flaw met in passing over elements. -/
def skipItems : List Outline → Option Flaw
  | [] => none
  | v :: r => (skip v).or (skipItems r)

/-- The flaw met in passing over members. -/
def skipMembers : List (Except Flaw String × Outline) → Option Flaw
  | [] => none
  | (_, v) :: r => (skip v).or (skipMembers r)

end

/-! ### Reading a value -/

/-- Breaks off with a flaw, if there is one. -/
def endsWith (stop : Option Fault) : Except Flaw Unit :=
  match stop with
  | some fault => .error fault.reading
  | none => .ok ()

mutual

/-- The content of a value, repeated names included, or the first flaw met in reading it. -/
def content : Outline → Except Flaw Json
  | null => .ok .null
  | bool b => .ok (.bool b)
  | number n => .ok (.number n)
  | string s => .ok (.string s)
  | array items stop => do
    let vs ← contentItems items
    endsWith stop
    return .array vs
  | object members stop => do
    let es ← contentMembers members
    endsWith stop
    return .object es
  | unreadable fault => .error fault.reading

/-- The contents of elements. -/
def contentItems : List Outline → Except Flaw (List Json)
  | [] => .ok []
  | v :: r => do
    let x ← content v
    return x :: (← contentItems r)

/-- The contents of members. -/
def contentMembers : List (Except Flaw String × Outline) → Except Flaw (List (String × Json))
  | [] => .ok []
  | (k, v) :: r => do
    let name ← k
    let x ← content v
    return (name, x) :: (← contentMembers r)

end

/-! ### Documents that are held already -/

mutual

/-- The outline of a document. -/
def ofJson : Json → Outline
  | .null => null
  | .bool b => bool b
  | .number n => number n
  | .string s => string s
  | .array items => array (ofItems items) none
  | .object members => object (ofMembers members) none

/-- The outlines of elements. -/
def ofItems : List Json → List Outline
  | [] => []
  | v :: r => ofJson v :: ofItems r

/-- The outlines of members. -/
def ofMembers : List (String × Json) → List (Except Flaw String × Outline)
  | [] => []
  | (k, v) :: r => (.ok k, ofJson v) :: ofMembers r

end

mutual

/-- A document that is held can be passed over. -/
theorem skip_ofJson : ∀ v : Json, skip (ofJson v) = none
  | .null => by simp [ofJson, skip]
  | .bool _ => by simp [ofJson, skip]
  | .number _ => by simp [ofJson, skip]
  | .string _ => by simp [ofJson, skip]
  | .array items => by simp [ofJson, skip, skip_ofItems items]
  | .object members => by simp [ofJson, skip, skip_ofMembers members]

theorem skip_ofItems : ∀ vs : List Json, skipItems (ofItems vs) = none
  | [] => by simp [ofItems, skipItems]
  | v :: r => by simp [ofItems, skipItems, skip_ofJson v, skip_ofItems r]

theorem skip_ofMembers : ∀ es : List (String × Json), skipMembers (ofMembers es) = none
  | [] => by simp [ofMembers, skipMembers]
  | (k, v) :: r => by simp [ofMembers, skipMembers, skip_ofJson v, skip_ofMembers r]

end

mutual

/-- A document that is held is its own content. -/
theorem content_ofJson : ∀ v : Json, content (ofJson v) = .ok v
  | .null => rfl
  | .bool _ => rfl
  | .number _ => rfl
  | .string _ => rfl
  | .array items => by rw [ofJson, content, content_ofItems items]; rfl
  | .object members => by rw [ofJson, content, content_ofMembers members]; rfl

theorem content_ofItems : ∀ vs : List Json, contentItems (ofItems vs) = .ok vs
  | [] => rfl
  | v :: r => by rw [ofItems, contentItems, content_ofJson v, content_ofItems r]; rfl

theorem content_ofMembers : ∀ es : List (String × Json), contentMembers (ofMembers es) = .ok es
  | [] => rfl
  | (k, v) :: r => by rw [ofMembers, contentMembers, content_ofJson v, content_ofMembers r]; rfl

end

end Outline

/-! ### From text to outline -/

/-- A blank between the parts of a document. -/
def isGap (c : Char) : Bool := c = ' ' || c = '\n' || c = '\t' || c = '\r'

/-- A text without the blanks at its start. -/
def skipGap (cs : List Char) : List Char := cs.dropWhile isGap

/-- What follows a keyword of which `expected` is still missing. -/
def keyword : List Char → List Char → Except Flaw (List Char)
  | [], cs => .ok cs
  | _ :: _, [] => .error .truncated
  | e :: es, c :: r => if c = e then keyword es r else .error .malformed

/-- A keyword whose first letter was read. -/
def keywordOutline (expected : List Char) (v : Outline) (cs : List Char) : Outline × List Char :=
  match keyword expected cs with
  | .ok rest => (v, rest)
  | .error f => (.unreadable (.both f), [])

/-- A number. -/
def numberOutline (cs : List Char) : Outline × List Char :=
  match Numeral.read? cs with
  | .error fault => (.unreadable fault, [])
  | .ok (x, rest) =>
    match x.value? with
    | some n => (.number n, rest)
    | none => (.unreadable (.onlyReading .malformed), rest)

/-- A string whose opening quote was read. -/
def stringOutline (cs : List Char) : Outline × List Char :=
  match Literal.read cs with
  | .text s rest => (.string (String.ofList s), rest)
  | .garbled f rest => (.unreadable (.onlyReading f), rest)
  | .broken fault => (.unreadable fault, [])

/-- An array or an object that has reached the greatest depth cannot be read any more. -/
def withinDepth (depth : Nat) (v : Outline) : Outline :=
  if depth = 0 then .unreadable ⟨.malformed, v.skip⟩ else v

mutual

/-- The value at the start of a text and what follows it; `depth` is the number of arrays and
objects that may still be opened. -/
def outlineValue (fuel depth : Nat) (cs : List Char) : Outline × List Char :=
  match fuel with
  | 0 => (.unreadable (.both .malformed), [])
  | fuel + 1 =>
    match skipGap cs with
    | [] => (.unreadable (.both .truncated), [])
    | 'n' :: r => keywordOutline ['u', 'l', 'l'] .null r
    | 't' :: r => keywordOutline ['r', 'u', 'e'] (.bool true) r
    | 'f' :: r => keywordOutline ['a', 'l', 's', 'e'] (.bool false) r
    | '"' :: r => stringOutline r
    | '[' :: r =>
      let (items, stop, rest) :=
        match skipGap r with
        | ']' :: r => ([], none, r)
        | [] => ([], some (.both .truncated), [])
        | r => outlineItems fuel (depth - 1) r
      (withinDepth depth (.array items stop), rest)
    | '\x7b' :: r =>
      let (members, stop, rest) :=
        match skipGap r with
        | '\x7d' :: r => ([], none, r)
        | [] => ([], some (.both .truncated), [])
        | r => outlineMembers fuel (depth - 1) r
      (withinDepth depth (.object members stop), rest)
    | c :: r =>
      if c = '-' ∨ c.isDigit then numberOutline (c :: r)
      else (.unreadable (.both .malformed), [])

/-- The elements of an array up to its end, from an element on. -/
def outlineItems (fuel depth : Nat) (cs : List Char) :
    List Outline × Option Fault × List Char :=
  match fuel with
  | 0 => ([], some (.both .malformed), [])
  | fuel + 1 =>
    let (v, r) := outlineValue fuel depth cs
    match v.skip with
    | some _ => ([v], none, [])
    | none =>
      match skipGap r with
      | ']' :: r => ([v], none, r)
      | ',' :: r =>
        let (vs, stop, rest) := outlineItems fuel depth r
        (v :: vs, stop, rest)
      | r => ([v], some (.both (Flaw.at r)), [])

/-- The members of an object up to its end, from a name on. -/
def outlineMembers (fuel depth : Nat) (cs : List Char) :
    List (Except Flaw String × Outline) × Option Fault × List Char :=
  match fuel with
  | 0 => ([], some (.both .malformed), [])
  | fuel + 1 =>
    match skipGap cs with
    | '"' :: r =>
      match Literal.read r with
      | .broken fault => ([], some fault, [])
      | .text s rest => outlineMember fuel depth (.ok (String.ofList s)) rest
      | .garbled f rest => outlineMember fuel depth (.error f) rest
    | r => ([], some (.both (Flaw.at r)), [])

/-- The members of an object up to its end, from the colon after a name on. -/
def outlineMember (fuel depth : Nat) (name : Except Flaw String) (cs : List Char) :
    List (Except Flaw String × Outline) × Option Fault × List Char :=
  match fuel with
  | 0 => ([], some (.both .malformed), [])
  | fuel + 1 =>
    match skipGap cs with
    | ':' :: r =>
      let (v, r) := outlineValue fuel depth r
      match v.skip with
      | some _ => ([(name, v)], none, [])
      | none =>
        match skipGap r with
        | '\x7d' :: r => ([(name, v)], none, r)
        | ',' :: r =>
          let (es, stop, rest) := outlineMembers fuel depth r
          ((name, v) :: es, stop, rest)
        | r => ([(name, v)], some (.both (Flaw.at r)), [])
    | r => ([(name, .unreadable (.both (Flaw.at r)))], none, [])

end

/-- The number of arrays and objects that may be nested. -/
def greatestDepth : Nat := 127

/-- The outline of a whole text, and the flaw of what follows the value. -/
def outlineOf (cs : List Char) : Outline × Option Flaw :=
  let (v, rest) := outlineValue (3 * cs.length + 3) greatestDepth cs
  (v, if (skipGap rest).isEmpty then none else some .malformed)

end FieldQuery.Json
