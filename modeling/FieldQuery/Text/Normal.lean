/-
**Texts in their composed form.**

Two texts may look alike and differ in how their characters are composed: a letter with two marks is
one character, or two, or three, and the marks may stand in either order.  All of them have the same
composed form.  To find it, everything is taken apart, the marks on one letter are ordered by their
classes, and then as much as possible is put together again, from the left.

Main definitions:

* `Text.decomposed` — a character taken apart;
* `Text.ordered` — a text with its marks in order;
* `Text.composed` — a text put together;
* `Text.normal` — the composed form of a text.
-/

import FieldQuery.Text.Composite

set_option autoImplicit false

namespace FieldQuery.Text

/-! ### Taking apart -/

/-- The most characters that one is made of, its first one aside. -/
def mostMarks : Nat := 3

/-- A character taken apart, in so many steps at most. -/
def decomposedIn : Nat → Char → List Char
  | 0, c => [c]
  | steps + 1, c =>
    match parts? c with
    | some (a, b) => decomposedIn steps a ++ [b]
    | none => [c]

/-- A character taken apart. -/
def decomposed (c : Char) : List Char := decomposedIn mostMarks c

/-! ### Ordering marks -/

/-- A character put in front of a text; a mark goes behind those marks that it does not touch. -/
def putMark (c : Char) : List Char → List Char
  | [] => [c]
  | d :: r =>
    if 0 < combiningClass d ∧ combiningClass d < combiningClass c then d :: putMark c r
    else c :: d :: r

/-- A text with the marks on each character in the order of their classes. -/
def ordered (cs : List Char) : List Char := cs.foldr putMark []

/-! ### Putting together -/

/-- A text put together: `base` is the last character that is no mark, and `marks` are those on it
that stay, in reverse.  A mark is reached from the base if no mark of its class is in between. -/
def composedFrom (base : Char) (marks : List Char) : List Char → List Char
  | [] => base :: marks.reverse
  | c :: r =>
    let isReached := match marks with
      | [] => true
      | m :: _ => combiningClass m < combiningClass c
    match if isReached then composite? base c else none with
    | some whole => composedFrom whole marks r
    | none =>
      if combiningClass c = 0 then base :: marks.reverse ++ composedFrom c [] r
      else composedFrom base (c :: marks) r

/-- A text put together as far as possible. -/
def composed : List Char → List Char
  | [] => []
  | c :: r => composedFrom c [] r

/-! ### The form -/

/-- The composed form of a text. -/
def normal (cs : List Char) : List Char := composed (ordered (cs.flatMap decomposed))

end FieldQuery.Text
