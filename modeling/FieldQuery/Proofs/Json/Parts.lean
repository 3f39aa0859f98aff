/-
**Numbers and strings that are read again.**

The reader of a document goes by characters and has no tokens, so each part has to end where the
reader leaves it.  A string ends by itself, with the first quote that no backslash stands before.
A number does not: it ends where nothing follows that could belong to it.

What is written of a character in a string is read as one piece, but not always as the character; a
control character that has no letter of its own is read as a unit of sixteen bits, and becomes a
character when the pieces are joined.

A whole number is read digit by digit into 64 bits, and turned into a double as soon as it does not
fit.  As the digits come from a number that fits, so does every number on the way to it.

Main definitions:

* `Json.EndsNumber` — a text that does not go on with a number.

Main results:

* `Json.numberOutline_toText` — a whole number is read again;
* `Json.numberOfText?_toText` — so is one that is a text by itself;
* `Json.stringOutline_escaped` — a string is read again.
-/

import FieldQuery.Proofs.Grammar.Numeral
import FieldQuery.Json.Outline
import FieldQuery.Json.Printer

set_option autoImplicit false

namespace FieldQuery.Json

open Grammar

/-! ### Digits -/

namespace Numeral

theorem le_foldl_digits (n : Nat) (ds : List Nat) :
    n ≤ ds.foldl (fun m d => 10 * m + d) n := by
  induction ds generalizing n with
  | nil => exact Nat.le_refl n
  | cons d ds ih => exact Nat.le_trans (by omega) (ih (10 * n + d))

/-- Digits of a number that fits in 64 bits are all taken. -/
theorem fill_eq {n : Nat} {ds : List Nat}
    (h : ds.foldl (fun m d => 10 * m + d) n ≤ greatestWord) :
    fill n ds = (ds.foldl (fun m d => 10 * m + d) n, []) := by
  induction ds generalizing n with
  | nil => rfl
  | cons d ds ih =>
    have hstep : 10 * n + d ≤ greatestWord :=
      Nat.le_trans (le_foldl_digits (10 * n + d) ds) h
    rw [fill, if_pos hstep]
    exact ih h

theorem fill_decimalDigits {n : Nat} (h : n ≤ greatestWord) :
    fill 0 (digitValues (Binary64.decimalDigits n)) = (n, []) := by
  have hvalue : digitsValue (digitValues (Binary64.decimalDigits n)) = n := by
    rw [digitsValue_digitValues, Binary64.decimalDigits, Nat.ofDigitChars_ten_toDigits]
  have hfits : digitsValue (digitValues (Binary64.decimalDigits n)) ≤ greatestWord := by
    rwa [hvalue]
  have hfill := fill_eq hfits
  rwa [← digitsValue, hvalue] at hfill

/-- The parts of a whole number. -/
def ofWhole (n : WideInt) : Numeral :=
  ⟨decide (n.val < 0), digitValues (Binary64.decimalDigits n.val.natAbs), none, none⟩

/-- The parts of a whole number have its value. -/
theorem value?_ofWhole (n : WideInt) : (ofWhole n).value? = some (.whole n) := by
  have hleast := n.least_le
  have hgreatest := n.le_greatest
  have hfill := fill_decimalDigits (n := n.val.natAbs) (by unfold greatestWord; omega)
  have hwhole : (ofWhole n).value? = wholeValue (decide (n.val < 0)) n.val.natAbs := by
    unfold value? ofWhole
    dsimp only
    rw [hfill]
    rfl
  rw [hwhole, wholeValue]
  by_cases hneg : n.val < 0
  · have hval : -(n.val.natAbs : Int) = n.val := by omega
    rw [decide_eq_true hneg, if_pos rfl, if_neg (by omega), hval, WideInt.ofInt?_val]
  · have hval : (n.val.natAbs : Int) = n.val := by omega
    rw [decide_eq_false hneg, if_neg Bool.false_ne_true, hval, WideInt.ofInt?_val]
    rfl

end Numeral

/-! ### Numbers -/

/-- The text does not go on with a number: it begins with no digit, no point and no exponent. -/
def EndsNumber (cs : List Char) : Prop :=
  ∀ c ∈ cs.head?, c.isDigit = false ∧ c ≠ '.' ∧ c ≠ 'e' ∧ c ≠ 'E'

theorem endsNumber_nil : EndsNumber [] := nofun

theorem endsNumber_cons {c : Char} (h : c.isDigit = false ∧ c ≠ '.' ∧ c ≠ 'e' ∧ c ≠ 'E')
    (r : List Char) : EndsNumber (c :: r) := by
  intro d hd
  obtain rfl := Option.some.inj hd
  exact h

namespace Numeral

theorem exponentPart_of_endsNumber {r : List Char} (hr : EndsNumber r) :
    exponentPart r = .ok (none, r) := by
  cases r with
  | nil => rfl
  | cons c r =>
    obtain ⟨-, -, hlower, hupper⟩ := hr c rfl
    rw [exponentPart, if_neg (not_or.2 ⟨hlower, hupper⟩)]

/-- The text of a whole number is read part by part. -/
theorem read?_toText (n : WideInt) {r : List Char} (hr : EndsNumber r) :
    read? (n.toText ++ r) = .ok (ofWhole n, r) := by
  have hwell := wellSpelled_decimalDigits n.val.natAbs
  have hdigit : NoDigit r := fun c hc => (hr c hc).1
  have hpoint : r.head? ≠ some '.' := fun h => (hr '.' h).2.1 rfl
  have hminus : (Binary64.decimalDigits n.val.natAbs ++ r).head? ≠ some '-' := by
    cases hds : Binary64.decimalDigits n.val.natAbs with
    | nil => exact absurd hds hwell.whole_ne
    | cons c ds =>
      intro h
      obtain rfl : c = '-' := Option.some.inj h
      exact absurd (hwell.whole_digits '-' (by rw [hds]; exact List.mem_cons_self)) (by decide)
  have htext : n.toText ++ r =
      (if decide (n.val < 0) then ['-'] else []) ++ (Binary64.decimalDigits n.val.natAbs ++ r) := by
    rw [WideInt.toText]
    by_cases hneg : n.val < 0 <;> simp [hneg]
  rw [htext, read?, sign_append _ hminus]
  change (wholePart _ >>= _) = _
  rw [wholePart_append hwell hdigit]
  change (fractionPart r >>= _) = _
  rw [show fractionPart r = .ok (none, r) from fractionPart_append hwell hdigit hpoint]
  change (exponentPart r >>= _) = _
  rw [exponentPart_of_endsNumber hr]
  rfl

end Numeral

/-- **A whole number** is read again. -/
theorem numberOutline_toText (n : WideInt) {r : List Char} (hr : EndsNumber r) :
    numberOutline (n.toText ++ r) = (.number (.whole n), r) := by
  rw [numberOutline, Numeral.read?_toText n hr]
  dsimp only
  rw [Numeral.value?_ofWhole]

/-- A whole number that is a text by itself is read again. -/
theorem numberOfText?_toText (n : WideInt) : numberOfText? n.toText = some (.whole n) := by
  have hread := Numeral.read?_toText n endsNumber_nil
  rw [List.append_nil] at hread
  rw [numberOfText?, hread]
  exact Numeral.value?_ofWhole n

/-- The text of a whole number begins with a digit or a minus sign. -/
theorem exists_cons_toText (n : WideInt) :
    ∃ c cs, n.toText = c :: cs ∧ (c = '-' ∨ c.isDigit = true) := by
  have hwell := wellSpelled_decimalDigits n.val.natAbs
  by_cases hneg : n.val < 0
  · exact ⟨'-', _, by rw [WideInt.toText, if_pos hneg], .inl rfl⟩
  · cases hds : Binary64.decimalDigits n.val.natAbs with
    | nil => exact absurd hds hwell.whole_ne
    | cons c ds =>
      refine ⟨c, ds, by rw [WideInt.toText, if_neg hneg, hds], .inr ?_⟩
      exact hwell.whole_digits c (by rw [hds]; exact List.mem_cons_self)

/-! ### Strings -/

theorem pieces_escape {c x : Char} (hu : c ≠ 'u') (h : escapeChar? c = some x) (r : List Char) :
    pieces ('\\' :: c :: r) = (.char x :: (pieces r).1, (pieces r).2) := by
  rw [pieces]
  · rw [h]
  -- the other escapes begin with a letter that this one does not begin with
  all_goals
    intros
    contradiction

theorem pieces_unit {a b c d : Char} {n : Nat} (h : Text.natural? 16 [a, b, c, d] = some n)
    (r : List Char) :
    pieces ('\\' :: 'u' :: a :: b :: c :: d :: r) = (.unit n :: (pieces r).1, (pieces r).2) := by
  rw [pieces, h]

theorem pieces_plain {c : Char} (hquote : c ≠ '"') (hback : c ≠ '\\') (h : ¬ c.toNat < 0x20)
    (r : List Char) : pieces (c :: r) = (.char c :: (pieces r).1, (pieces r).2) := by
  rw [pieces]
  · rw [if_neg h]
  · exact hquote
  -- without a backslash there is no escape
  all_goals
    intros
    contradiction

/-- A character of a string is read as its piece. -/
theorem pieces_escapedChar (c : Char) (r : List Char) :
    pieces (escapedChar c ++ r) = (pieceOf c :: (pieces r).1, (pieces r).2) := by
  unfold escapedChar
  -- the quote, the backslash and five control characters have escapes of their own
  split
  · subst c; exact pieces_escape (by decide) rfl r
  split
  · subst c; exact pieces_escape (by decide) rfl r
  split
  · subst c; exact pieces_escape (by decide) rfl r
  split
  · subst c; exact pieces_escape (by decide) rfl r
  split
  · subst c; exact pieces_escape (by decide) rfl r
  split
  · subst c; exact pieces_escape (by decide) rfl r
  split
  · subst c; exact pieces_escape (by decide) rfl r
  rename_i hquote hback h₁ h₂ h₃ h₄ h₅
  split
  · rename_i hlt
    have hpiece : pieceOf c = .unit c.toNat := by
      rw [pieceOf, if_pos ⟨hlt, by simp [h₁, h₂, h₃, h₄, h₅]⟩]
    rw [hpiece]
    exact pieces_unit (natural?_control c.toNat hlt) r
  · rename_i hge
    have hpiece : pieceOf c = .char c := by
      rw [pieceOf, if_neg fun h => hge h.1]
    rw [hpiece]
    exact pieces_plain hquote hback hge r

/-- A string is read as its pieces, up to the quote behind it. -/
theorem pieces_escaped (cs r : List Char) :
    pieces (cs.flatMap escapedChar ++ '"' :: r) = (cs.map pieceOf, .ok r) := by
  induction cs with
  | nil => rfl
  | cons c cs ih => rw [List.flatMap_cons, List.append_assoc, pieces_escapedChar, ih, List.map_cons]

theorem literalRead_escaped (cs r : List Char) :
    Literal.read (cs.flatMap escapedChar ++ '"' :: r) = .text cs r := by
  rw [Literal.read, pieces_escaped]
  dsimp only
  rw [join_map_pieceOf]

/-- **A string** is read again. -/
theorem stringOutline_escaped (s : String) (r : List Char) :
    stringOutline (s.toList.flatMap escapedChar ++ '"' :: r) = (.string s, r) := by
  rw [stringOutline, literalRead_escaped]
  dsimp only
  rw [String.ofList_toList]

end FieldQuery.Json
