/-
**Hosts of sixteen bytes.**

The number of a host may have sixteen bytes.  It is written as eight words in hexadecimal with
colons between them; once, two colons may stand for as many noughts as are missing, and the last two
words may be written as four bytes in decimal.  However it was written, it is shown in one way: in
small letters, without noughts in front, and with two colons for the longest run of noughts.

Main definitions:

* `Ipv6` — eight words;
* `Ipv6.read?` — the number that a text writes;
* `Ipv6.text` — the number as it is shown, in brackets.
-/

import FieldQuery.Text.Cut
import FieldQuery.Text.Digits

set_option autoImplicit false

namespace FieldQuery

/-- The number of a host in eight words. -/
structure Ipv6 where
  words : List (Fin 65536)
  length_words : words.length = 8
deriving DecidableEq, Repr

namespace Ipv6

/-! ### Reading -/

/-- The word of up to four digits. -/
def word? (cs : List Char) : Option (Fin 65536) :=
  if cs.length ≤ 4 then
    (Text.natural? 16 cs).bind fun n => if h : n < 65536 then some ⟨n, h⟩ else none
  else none

/-- The byte of a decimal, which has no nought in front. -/
def byte? (cs : List Char) : Option Nat :=
  (Text.natural? 10 cs).filter fun n => n < 256 && (cs.head? != some '0' || cs.length = 1)

/-- The two words of four bytes in decimal. -/
def quad? (cs : List Char) : Option (List (Fin 65536)) :=
  match (Text.pieces '.' cs).mapM byte? with
  | some [a, b, c, d] => some [Fin.ofNat 65536 (a * 256 + b), Fin.ofNat 65536 (c * 256 + d)]
  | _ => none

/-- The words of pieces; where this is allowed, the last one may be four bytes in decimal. -/
def wordsOf? (decimal : Bool) : List (List Char) → Option (List (Fin 65536))
  | [] => some []
  | [p] => if decimal && p.contains '.' then quad? p else (word? p).map ([·])
  | p :: r => do return (← word? p) :: (← wordsOf? decimal r)

/-- The words on one side of two colons. -/
def half? (decimal : Bool) (cs : List Char) : Option (List (Fin 65536)) :=
  if cs.isEmpty then some [] else wordsOf? decimal (Text.pieces ':' cs)

/-- The words of a text; two colons stand for one nought at least. -/
def words? (cs : List Char) : Option (List (Fin 65536)) :=
  match Text.cutAtText [':', ':'] cs with
  | some (front, back) => do
    let front ← half? false front
    let back ← half? true back
    let missing := 8 - (front.length + back.length)
    if missing = 0 then none else return front ++ List.replicate missing 0 ++ back
  | none => half? true cs

/-- The number that a text writes. -/
def read? (cs : List Char) : Option Ipv6 :=
  (words? cs).bind fun ws => if h : ws.length = 8 then some ⟨ws, h⟩ else none

/-! ### Showing -/

/-- How many noughts there are at the front. -/
def noughts (ws : List (Fin 65536)) : Nat := (ws.takeWhile (· = 0)).length

/-- Where the longest run of noughts begins, the first one of several, and how long it is; words are
counted from `i`. -/
def longestRun (i : Nat) : List (Fin 65536) → Nat × Nat
  | [] => (i, 0)
  | w :: r =>
    let behind := longestRun (i + 1) r
    if behind.2 ≤ noughts (w :: r) then (i, noughts (w :: r)) else behind

/-- Words with colons between them. -/
def wordsText (ws : List (Fin 65536)) : List Char :=
  List.intercalate [':'] (ws.map fun w : Fin 65536 => Nat.toDigits 16 w.val)

/-- The number as it is shown, in brackets; a single nought is written out. -/
def text (a : Ipv6) : String :=
  let (i, n) := longestRun 0 a.words
  let shown :=
    if n < 2 then wordsText a.words
    else wordsText (a.words.take i) ++ [':', ':'] ++ wordsText (a.words.drop (i + n))
  String.ofList ('[' :: shown ++ [']'])

/-- Of two runs that are as long the first one is left out. -/
example : (read? "2001:DB8:0:0:01::10.0.0.1".toList).map text = some "[2001:db8::1:0:a00:1]" := by
  decide +kernel

end Ipv6

end FieldQuery
