/-
**Labels in ASCII.**

Names of hosts were made of ASCII letters long before other letters were wanted, and so a label with
other characters has a form in ASCII, which is known as Punycode.  In front it has the ASCII
characters of the label in their order, and behind a hyphen it says where the others belong: they
are put in one by one, the smallest first, and each of them is written as a number, which counts the
places and characters that are passed over since the last one.

Digits run from `a` to `z` and on from `0` to `9`, and the least digit comes first.  A number ends
with the first digit below a threshold, which depends on the place of the digit and on a bias; after
each number the bias is set anew, so that numbers of the same size are short.

Main definitions:

* `Text.Punycode.encode` — the ASCII form of a label;
* `Text.Punycode.decode?` — the label that has an ASCII form.

Main results:

* `Text.Punycode.lt_of_mem_encode` — the ASCII form of a label is in ASCII.
-/

import FieldQuery.Text.Cut

set_option autoImplicit false

namespace FieldQuery.Text.Punycode

/-! ### Digits -/

/-- The digit of a number below thirty-six. -/
def digit (d : Nat) : Char := Char.ofNat (if d < 26 then 97 + d else 22 + d)

/-- The number of a digit. -/
def value? (c : Char) : Option Nat :=
  if 'a' ≤ c ∧ c ≤ 'z' then some (c.toNat - 97)
  else if '0' ≤ c ∧ c ≤ '9' then some (c.toNat - 22)
  else none

theorem digit_lt {d : Nat} (h : d < 36) : (digit d).toNat < 128 := by
  revert d
  decide

/-! ### Bias and threshold -/

/-- The threshold of a digit, of which the place is counted in steps of thirty-six. -/
def threshold (bias place : Nat) : Nat := max 1 (min 26 (place - bias))

theorem threshold_pos (bias place : Nat) : 0 < threshold bias place :=
  Nat.lt_of_lt_of_le Nat.zero_lt_one (Nat.le_max_left _ _)

theorem threshold_le (bias place : Nat) : threshold bias place ≤ 26 :=
  Nat.max_le.mpr ⟨by decide, Nat.min_le_left _ _⟩

/-- The bias that fits a number, after so many places. -/
def biasFrom (places delta : Nat) : Nat :=
  if 455 < delta then biasFrom (places + 36) (delta / 35) else places + 36 * delta / (delta + 38)
termination_by delta

/-- The bias after a number `delta`, with so many characters by then. -/
def adapt (delta count : Nat) (first : Bool) : Nat :=
  let delta := if first then delta / 700 else delta / 2
  biasFrom 0 (delta + delta / count)

/-- The bias of the first number. -/
def firstBias : Nat := 72

/-- The place of the first digit. -/
def firstPlace : Nat := 36

/-- The least number of a character beyond ASCII. -/
def firstNumber : Nat := 128

/-! ### Writing -/

/-- The digits of a number, from a place on. -/
def writeNumber (bias place n : Nat) : List Char :=
  let t := threshold bias place
  if n < t then [digit n]
  else digit (t + (n - t) % (36 - t)) :: writeNumber bias (place + 36) ((n - t) / (36 - t))
termination_by n
decreasing_by
  have hpos := threshold_pos bias place
  have hdiv := Nat.div_le_self (n - threshold bias place) (36 - threshold bias place)
  omega

theorem lt_of_mem_writeNumber {bias place n : Nat} {c : Char}
    (h : c ∈ writeNumber bias place n) : c.toNat < firstNumber := by
  induction place, n using writeNumber.induct bias with
  | case1 place n t hlt =>
    have hle : t ≤ 26 := threshold_le bias place
    rw [writeNumber, if_pos hlt] at h
    obtain rfl := List.mem_singleton.mp h
    exact digit_lt (by omega)
  | case2 place n t hlt ih =>
    have hle : t ≤ 26 := threshold_le bias place
    have hmod : (n - t) % (36 - t) < 36 - t := Nat.mod_lt _ (by omega)
    rw [writeNumber, if_neg hlt] at h
    rcases List.mem_cons.mp h with rfl | h
    · exact digit_lt (show t + (n - t) % (36 - t) < 36 by omega)
    · exact ih h

/-- How far the writer is: the bias, what has been passed over since the last number, how many
characters are placed, and the text of the numbers. -/
structure Writer where
  bias : Nat
  delta : Nat
  placed : Nat
  text : List Char

/-- The writer behind one character of the label, while it places the characters `m`; `plain` is how
many characters were placed at the beginning. -/
def Writer.pass (plain m : Nat) (w : Writer) (c : Nat) : Writer :=
  if c < m then { w with delta := w.delta + 1 }
  else if c = m then
    ⟨adapt w.delta (w.placed + 1) (w.placed = plain), 0, w.placed + 1,
      w.text ++ writeNumber w.bias firstPlace w.delta⟩
  else w

/-- The writer after it has placed the characters `m`, if it comes from the characters below `n`. -/
def Writer.place (label : List Nat) (plain n m : Nat) (w : Writer) : Writer :=
  let start := { w with delta := w.delta + (m - n) * (w.placed + 1) }
  let done := label.foldl (Writer.pass plain m) start
  { done with delta := done.delta + 1 }

/-- The writer after it has placed several characters, in ascending order. -/
def Writer.placeAll (label : List Nat) (plain : Nat) : Nat → List Nat → Writer → Writer
  | _, [], w => w
  | n, m :: r, w => placeAll label plain (m + 1) r (w.place label plain n m)

/-- What has been written so far is in ASCII. -/
def Writer.IsAscii (w : Writer) : Prop := ∀ c ∈ w.text, c.toNat < firstNumber

theorem Writer.IsAscii.pass {w : Writer} (h : w.IsAscii) (plain m c : Nat) :
    (w.pass plain m c).IsAscii := by
  unfold Writer.pass
  split
  · exact h
  · split
    · intro x hx
      rcases List.mem_append.mp hx with hx | hx
      · exact h x hx
      · exact lt_of_mem_writeNumber hx
    · exact h

theorem Writer.IsAscii.foldl {plain m : Nat} (label : List Nat) :
    ∀ {w : Writer}, w.IsAscii → (label.foldl (Writer.pass plain m) w).IsAscii := by
  induction label with
  | nil => exact id
  | cons c r ih => exact fun h => ih (h.pass plain m c)

theorem Writer.IsAscii.placeAll (label : List Nat) (plain : Nat) (others : List Nat) :
    ∀ {n : Nat} {w : Writer}, w.IsAscii → (Writer.placeAll label plain n others w).IsAscii := by
  induction others with
  | nil => exact id
  | cons m r ih =>
    intro n w h
    have hstart : Writer.IsAscii { w with delta := w.delta + (m - n) * (w.placed + 1) } := h
    exact ih (hstart.foldl label)

/-- The ASCII form of a label. -/
def encode (label : List Char) : List Char :=
  let numbers := label.map Char.toNat
  let plain := label.filter fun c => c.toNat < firstNumber
  let others := (numbers.filter fun n => firstNumber ≤ n).eraseDups.mergeSort
  let written := Writer.placeAll numbers plain.length firstNumber others
    ⟨firstBias, 0, plain.length, []⟩
  plain ++ (if plain.isEmpty then [] else ['-']) ++ written.text

/-- The ASCII form of a label is in ASCII. -/
theorem lt_of_mem_encode {label : List Char} {c : Char} (h : c ∈ encode label) :
    c.toNat < firstNumber := by
  have hempty : Writer.IsAscii ⟨firstBias, 0, (label.filter (·.toNat < firstNumber)).length, []⟩ :=
    fun _ hx => absurd hx List.not_mem_nil
  rcases List.mem_append.mp h with h | h
  · rcases List.mem_append.mp h with h | h
    · exact of_decide_eq_true (List.mem_filter.mp h).2
    · split at h
      · cases h
      · obtain rfl := List.mem_singleton.mp h
        decide
  · exact hempty.placeAll _ _ _ c h

/-! ### Reading -/

/-- How far the reader is: the bias, the character that was placed last and the place behind it, the
place and the weight of the next digit, what the digits so far come to from there, and the label. -/
structure Reader where
  bias : Nat
  number : Nat
  index : Nat
  place : Nat
  weight : Nat
  sum : Nat
  label : List Char

/-- The reader after a number that comes to `sum`, if it stands for a character. -/
def Reader.put? (s : Reader) (sum : Nat) : Option Reader :=
  let count := s.label.length + 1
  let number := s.number + sum / count
  let index := sum % count
  if number.isValidChar then
    some ⟨adapt (sum - s.index) count (s.index = 0), number, index + 1, firstPlace, 1, index + 1,
      s.label.insertIdx index (Char.ofNat number)⟩
  else none

/-- The reader after one digit more. -/
def Reader.next? (s : Reader) (c : Char) : Option Reader := do
  let d ← value? c
  let sum := s.sum + d * s.weight
  let t := threshold s.bias s.place
  if d < t then s.put? sum
  else return { s with place := s.place + 36, weight := s.weight * (36 - t), sum := sum }

/-- The characters in front of the last hyphen, and the digits behind it; a hyphen that is the first
character is none. -/
def cut (cs : List Char) : List Char × List Char :=
  match cutAt '-' cs.reverse with
  | some (digits, c :: r) => ((c :: r).reverse, digits.reverse)
  | _ => ([], cs)

/-- The label that has an ASCII form. -/
def decode? (cs : List Char) : Option (List Char) := do
  let (plain, digits) := cut cs
  let s ← digits.foldlM Reader.next? ⟨firstBias, firstNumber, 0, firstPlace, 1, 0, plain⟩
  if s.weight = 1 then return s.label else none

end FieldQuery.Text.Punycode
