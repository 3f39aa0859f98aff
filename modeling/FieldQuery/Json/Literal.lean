/-
**String literals.**

A string is first cut into its pieces, characters and coded units, and then put together.  Cutting
is all that passing over a string needs; putting together also demands that the two halves of a
character beyond sixteen bits stand side by side.

Main definitions:

* `Json.Piece` — a character, or a unit given by four hexadecimal digits;
* `Json.pieces` — the pieces up to the closing quote;
* `Json.join` — the text that pieces make;
* `Json.Literal` — a string read, or why it was not.
-/

import FieldQuery.Json.Fault
import FieldQuery.Text.Digits

set_option autoImplicit false

namespace FieldQuery.Json

/-- A part of a string literal. -/
inductive Piece where
  | char (c : Char)
  | unit (n : Nat)
deriving DecidableEq, Repr

/-! ### Cutting -/

/-- The character that a letter after a backslash stands for. -/
def escapeChar? (c : Char) : Option Char :=
  if c = '"' ∨ c = '\\' ∨ c = '/' then some c
  else if c = 'b' then some '\x08'
  else if c = 'f' then some '\x0c'
  else if c = 'n' then some '\n'
  else if c = 'r' then some '\r'
  else if c = 't' then some '\t'
  else none

/-- The flaw of a coded unit without four digits: the text ends within four bytes, or holds
something else. -/
def unitFlaw (cs : List Char) : Flaw :=
  if (cs.take 4).foldl (fun n c => n + c.utf8Size) 0 < 4 then .truncated else .malformed

/-- The pieces of a string whose opening quote was read, and what follows its closing quote. -/
def pieces : List Char → List Piece × Except Flaw (List Char)
  | [] => ([], .error .truncated)
  | '"' :: r => ([], .ok r)
  | '\\' :: 'u' :: a :: b :: c :: d :: r =>
    match Text.natural? 16 [a, b, c, d] with
    | some n =>
      let (ps, rest) := pieces r
      (.unit n :: ps, rest)
    | none => ([], .error .malformed)
  | '\\' :: 'u' :: r => ([], .error (unitFlaw r))
  | '\\' :: c :: r =>
    match escapeChar? c with
    | some x =>
      let (ps, rest) := pieces r
      (.char x :: ps, rest)
    | none => ([], .error .malformed)
  | '\\' :: [] => ([], .error .truncated)
  | c :: r =>
    if c.toNat < 0x20 then ([], .error .malformed)
    else
      let (ps, rest) := pieces r
      (.char c :: ps, rest)

/-! ### Putting together -/

/-- The unit is the first half of a character. -/
def isLead (n : Nat) : Bool := 0xD800 ≤ n && n ≤ 0xDBFF

/-- The unit is the second half of a character. -/
def isTrail (n : Nat) : Bool := 0xDC00 ≤ n && n ≤ 0xDFFF

/-- The character that two halves make. -/
def pairChar (lead trail : Nat) : Char :=
  Char.ofNat (0x10000 + (lead - 0xD800) * 0x400 + (trail - 0xDC00))

/-- The text that pieces make.  `stop` is the flaw behind the last piece, if there is one; a half
without its partner there is laid to it. -/
def join (stop : Option Flaw) : List Piece → Except Flaw (List Char)
  | [] => .ok []
  | .char c :: r => do return c :: (← join stop r)
  | .unit n :: r =>
    if isTrail n then .error .malformed
    else if isLead n then
      match r with
      | [] => .error (stop.getD .malformed)
      | .char _ :: _ => .error .malformed
      | .unit m :: r =>
        if isTrail m then do return pairChar n m :: (← join stop r) else .error .malformed
    else do return Char.ofNat n :: (← join stop r)

/-! ### Literals -/

/-- What stands where a string was expected: its text and what follows, a fault of a string that
can be passed over and what follows, or a fault that ends the reading. -/
inductive Literal where
  | text (cs : List Char) (rest : List Char)
  | garbled (flaw : Flaw) (rest : List Char)
  | broken (fault : Fault)
deriving Repr

/-- The string whose opening quote was read. -/
def Literal.read (cs : List Char) : Literal :=
  match pieces cs with
  | (ps, .ok rest) =>
    match join none ps with
    | .ok content => .text content rest
    | .error f => .garbled f rest
  | (ps, .error f) =>
    match join (some f) ps with
    | .ok _ => .broken (.both f)
    | .error g => .broken ⟨g, some f⟩

end FieldQuery.Json
