/-
**Forms that are read again.**

A form is named values in a row, between `&` and around `=`.  Whoever reads it cuts first and
decodes afterwards, piece by piece, and in a piece the plus signs are turned to blanks before the
percent signs are looked at.  The order matters in both places: a value may hold every one of these
signs, and so may its name.  It works because what is written for a character is never one of the
signs that the reader cuts at, and because a plus sign that is meant is written as its byte.

Main definitions:

* `Text.formBytes`, `Text.formDecode` — the bytes of a piece, and its text;
* `Text.readForm` — the named values of a form.

Main results:

* `Text.formDecode_formEncode` — a value is found again;
* `Text.readForm_append` — a form behind another one is read behind it;
* `Text.readForm_formPairs` — **named values in a row are found again**, whatever they hold.
-/

import FieldQuery.Proofs.Text.Bytes
import FieldQuery.Text.Cut
import FieldQuery.Text.Percent

set_option autoImplicit false

namespace FieldQuery.Text

/-! ### Reading a form -/

/-- A plus sign is a blank. -/
def blankPlus (c : Char) : Char := if c = '+' then ' ' else c

/-- The bytes that a piece stands for, with plus signs turned to blanks. -/
def formBytes (cs : List Char) : List UInt8 := percentBytes (cs.map blankPlus)

/-- The text of a piece. -/
def formDecode (cs : List Char) : String := String.ofList (decodeUtf8 (formBytes cs))

/-- A piece with a name and a value; one without `=` has no value. -/
def readPair (piece : List Char) : String × String :=
  match cutAt '=' piece with
  | some (name, value) => (formDecode name, formDecode value)
  | none => (formDecode piece, "")

/-- The named values of a form, in order; nothing between two `&` is nothing. -/
def readForm (cs : List Char) : List (String × String) := (solidPieces '&' cs).map readPair

/-! ### Characters -/

theorem upperHexDigit_ne : ∀ n < 16,
    upperHexDigit n ≠ '+' ∧ upperHexDigit n ≠ '&' ∧ upperHexDigit n ≠ '=' := by decide

/-- There is no sign of the form in a byte that is written. -/
theorem ne_of_mem_percentByte {b : UInt8} {d : Char} (h : d ∈ percentByte b) :
    d ≠ '+' ∧ d ≠ '&' ∧ d ≠ '=' := by
  have hlt : b.toNat < 256 := b.toNat_lt
  simp only [percentByte, List.mem_cons, List.not_mem_nil, or_false] at h
  rcases h with rfl | rfl | rfl
  · decide
  · exact upperHexDigit_ne _ (by omega)
  · exact upperHexDigit_ne _ (by omega)

theorem ne_of_mem_percentChar {c d : Char} (h : d ∈ percentChar c) :
    d ≠ '+' ∧ d ≠ '&' ∧ d ≠ '=' := by
  obtain ⟨b, -, hb⟩ := List.mem_flatMap.1 h
  exact ne_of_mem_percentByte hb

/-- What is written for a character has no plus sign in it, unless that is a blank. -/
theorem map_blankPlus_percentChar (c : Char) : (percentChar c).map blankPlus = percentChar c := by
  have hsame : ∀ d ∈ percentChar c, blankPlus d = id d := fun d hd =>
    if_neg (ne_of_mem_percentChar hd).1
  rw [List.map_congr_left hsame, List.map_id]

/-- A character in a form stands for its own bytes. -/
theorem formBytes_formChar (c : Char) (r : List Char) :
    formBytes (formChar c ++ r) = String.utf8EncodeChar c ++ formBytes r := by
  unfold formBytes formChar
  rw [List.map_append]
  split
  · rename_i hblank
    rw [hblank]
    exact percentBytes_cons (by decide) _
  split
  · rename_i hplain
    -- the two signs that mean something else do not stand for themselves
    have hpercent : c ≠ '%' := by
      rintro rfl
      exact absurd hplain (by decide)
    have hplus : c ≠ '+' := by
      rintro rfl
      exact absurd hplain (by decide)
    rw [List.map_singleton, blankPlus, if_neg hplus, List.singleton_append,
      percentBytes_cons hpercent]
  · rw [map_blankPlus_percentChar, percentBytes_percentChar]

theorem formBytes_formEncode (cs r : List Char) :
    formBytes (formEncode cs ++ r) = cs.flatMap String.utf8EncodeChar ++ formBytes r := by
  unfold formEncode
  induction cs with
  | nil => rfl
  | cons c cs ih =>
    rw [List.flatMap_cons, List.append_assoc, formBytes_formChar, ih, List.flatMap_cons,
      List.append_assoc]

/-- **A value** that was written is found again. -/
theorem formDecode_formEncode (s : String) : formDecode (formEncode s.toList) = s := by
  have hbytes := formBytes_formEncode s.toList []
  rw [List.append_nil] at hbytes
  rw [formDecode, hbytes]
  change String.ofList (decodeUtf8 (_ ++ [])) = s
  rw [List.append_nil, decodeUtf8_encoded, String.ofList_toList]

/-! ### Signs that the reader cuts at -/

/-- What is written for a character is no sign that the reader cuts at. -/
theorem ne_of_mem_formChar {c d : Char} (h : d ∈ formChar c) : d ≠ '&' ∧ d ≠ '=' := by
  unfold formChar at h
  split at h
  · rw [List.mem_singleton.1 h]
    decide
  split at h
  · rename_i hplain
    obtain rfl := List.mem_singleton.1 h
    constructor <;> (rintro rfl; exact absurd hplain (by decide))
  · exact (ne_of_mem_percentChar h).2

theorem ne_of_mem_formEncode {cs : List Char} {d : Char} (h : d ∈ formEncode cs) :
    d ≠ '&' ∧ d ≠ '=' := by
  obtain ⟨c, -, hc⟩ := List.mem_flatMap.1 h
  exact ne_of_mem_formChar hc

/-- The first `=` of a named value stands between name and value. -/
theorem cutAt_formPair (p : String × String) :
    cutAt '=' (formPair p) = some (formEncode p.1.toList, formEncode p.2.toList) :=
  cutAt_eq_some_iff.2 ⟨rfl, fun h => (ne_of_mem_formEncode h).2 rfl⟩

theorem not_mem_formPair (p : String × String) : '&' ∉ formPair p := by
  intro h
  rcases List.mem_append.1 h with h | h
  · exact (ne_of_mem_formEncode h).1 rfl
  rcases List.mem_cons.1 h with h | h
  · exact absurd h (by decide)
  · exact (ne_of_mem_formEncode h).1 rfl

theorem readPair_formPair (p : String × String) : readPair (formPair p) = p := by
  rw [readPair, cutAt_formPair]
  change (formDecode _, formDecode _) = p
  rw [formDecode_formEncode, formDecode_formEncode]

/-! ### Forms -/

/-- A form behind another one is read behind it. -/
theorem readForm_append (as bs : List Char) :
    readForm (as ++ '&' :: bs) = readForm as ++ readForm bs := by
  rw [readForm, solidPieces, pieces_append_cons, List.filter_append, List.map_append]
  rfl

theorem readForm_formPair (p : String × String) : readForm (formPair p) = [p] := by
  have hsolid : formPair p ≠ [] := by
    rw [formPair]
    exact List.append_ne_nil_of_right_ne_nil _ (by simp)
  rw [readForm, solidPieces, pieces_of_not_mem (not_mem_formPair p),
    List.filter_cons_of_pos (by simpa using hsolid), List.filter_nil, List.map_singleton,
    readPair_formPair]

theorem formPairs_cons_cons (p q : String × String) (ps : List (String × String)) :
    formPairs (p :: q :: ps) = formPair p ++ '&' :: formPairs (q :: ps) := by
  simp [formPairs, List.intercalate]

/-- **Named values in a row** are found again, whatever names and values hold. -/
theorem readForm_formPairs (ps : List (String × String)) : readForm (formPairs ps) = ps := by
  induction ps with
  | nil => rfl
  | cons p ps ih =>
    cases ps with
    | nil => rw [formPairs_singleton, readForm_formPair]
    | cons q ps => rw [formPairs_cons_cons, readForm_append, readForm_formPair, ih]; rfl

/-- The signs of the form itself may all be in a value. -/
example : readForm (formPairs [("a=b", "1 & 2 + 3% = é")]) = [("a=b", "1 & 2 + 3% = é")] := by
  decide +kernel

end FieldQuery.Text
