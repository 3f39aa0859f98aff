/-
**Numbers that are read again.**

The text of a number is a sign, digits, perhaps a fraction and perhaps an exponent.  It is read as
one token, and the token is the number: a whole number has its own digits, and the digits of a
double are those of a decimal that is rounded to it, wherever the point was put.

Main definitions:

* `Grammar.spelled` — a numeral from its parts.

Main results:

* `Grammar.read?_spelled` — the parts of a numeral are found again;
* `Grammar.toText_eq_spelled` — the text of a number is a numeral, and its value is the number;
* `Grammar.scan_toText` — the text of a number is read as the number.
-/

import FieldQuery.Proofs.Grammar.Token
import FieldQuery.Proofs.Number.Decimal

set_option autoImplicit false

namespace FieldQuery.Grammar

open Json

/-! ### Digits -/

/-- All characters are digits. -/
def AllDigits (cs : List Char) : Prop := ∀ c ∈ cs, c.isDigit = true

/-- The text does not begin with a digit. -/
def NoDigit (cs : List Char) : Prop := ∀ c ∈ cs.head?, c.isDigit = false

/-- The values of digits. -/
def digitValues (cs : List Char) : List Nat := cs.map fun c => c.toNat - 48

theorem allDigits_decimalDigits (n : Nat) : AllDigits (Binary64.decimalDigits n) :=
  fun _ hc => Nat.isDigit_of_mem_toDigits (by decide) (by decide) hc

theorem allDigits_replicate (n : Nat) : AllDigits (List.replicate n '0') := by
  intro c hc
  rw [List.eq_of_mem_replicate hc]
  rfl

theorem AllDigits.append {as bs : List Char} (ha : AllDigits as) (hb : AllDigits bs) :
    AllDigits (as ++ bs) := fun c hc => (List.mem_append.1 hc).elim (ha c) (hb c)

/-- Digits are read up to the first character that is none. -/
theorem digits_append {ds r : List Char} (hd : AllDigits ds) (hr : NoDigit r) :
    Numeral.digits (ds ++ r) = (digitValues ds, r) := by
  induction ds with
  | nil =>
    cases r with
    | nil => rfl
    | cons c r =>
      rw [List.nil_append, Numeral.digits, hr c rfl]
      rfl
  | cons c ds ih =>
    rw [AllDigits, List.forall_mem_cons] at hd
    rw [List.cons_append, Numeral.digits, hd.1, if_pos rfl, ih hd.2]
    rfl

theorem someDigits_append {ds r : List Char} (hd : AllDigits ds) (hne : ds ≠ []) (hr : NoDigit r) :
    Numeral.someDigits (ds ++ r) = .ok (digitValues ds, r) := by
  rw [Numeral.someDigits, digits_append hd hr]
  cases ds with
  | nil => exact absurd rfl hne
  | cons c ds => rfl

theorem digitsValue_digitValues (cs : List Char) :
    Numeral.digitsValue (digitValues cs) = Nat.ofDigitChars 10 cs 0 := by
  rw [Numeral.digitsValue, digitValues, List.foldl_map, Nat.ofDigitChars_eq_foldl]
  rfl

/-- The first digit of a positive number is not zero. -/
theorem head?_decimalDigits {n : Nat} (hn : 0 < n) :
    (Binary64.decimalDigits n).head? ≠ some '0' := by
  unfold Binary64.decimalDigits
  induction n using Nat.strong_induction_on with
  | _ n ih =>
    by_cases hlt : n < 10
    · have hone : ∀ k < 10, 0 < k → [Nat.digitChar k].head? ≠ some '0' := by decide
      rw [Nat.toDigits_of_lt_base hlt]
      exact hone n hlt hn
    · have hrec := ih (n / 10) (by omega) (by omega)
      rw [Nat.toDigits_of_base_le (by decide) (by omega), List.head?_append]
      cases hhead : (Nat.toDigits 10 (n / 10)).head? with
      | none => exact absurd (List.head?_eq_none_iff.1 hhead) Nat.toDigits_ne_nil
      | some c =>
        rw [hhead] at hrec
        exact hrec

/-! ### Numerals -/

/-- The text of a fraction, if there is one. -/
def fractionText (fraction : Option (List Char)) : List Char := fraction.elim [] ('.' :: ·)

/-- The text of an exponent, if there is one: it always has a sign. -/
def exponentText (exponent : Option (Bool × List Char)) : List Char :=
  exponent.elim [] fun x => 'e' :: (if x.1 then '-' else '+') :: x.2

/-- A numeral from its parts: whether it has a minus sign, its whole part, its fraction, and the
sign and digits of its exponent. -/
def spelled (negative : Bool) (whole : List Char) (fraction : Option (List Char))
    (exponent : Option (Bool × List Char)) : List Char :=
  (if negative then ['-'] else []) ++ (whole ++ (fractionText fraction ++ exponentText exponent))

/-- The parts are those of a numeral: digits where there must be some, and no zero before another
digit. -/
structure WellSpelled (whole : List Char) (fraction : Option (List Char))
    (exponent : Option (Bool × List Char)) : Prop where
  whole_digits : AllDigits whole
  whole_ne : whole ≠ []
  whole_zero : whole.head? = some '0' → whole = ['0']
  fraction_digits : ∀ fs ∈ fraction, AllDigits fs ∧ fs ≠ []
  exponent_digits : ∀ x ∈ exponent, AllDigits x.2 ∧ x.2 ≠ []

/-- The value of an exponent. -/
def exponentValue (x : Bool × List Char) : Int :=
  if x.1 then -(Nat.ofDigitChars 10 x.2 0 : Int) else (Nat.ofDigitChars 10 x.2 0 : Int)

variable {whole : List Char} {fraction : Option (List Char)} {exponent : Option (Bool × List Char)}

theorem sign_append (negative : Bool) {cs : List Char} (h : cs.head? ≠ some '-') :
    Numeral.sign ((if negative then ['-'] else []) ++ cs) = (negative, cs) := by
  cases negative with
  | true => rfl
  | false =>
    cases cs with
    | nil => rfl
    | cons c r =>
      have hc : c ≠ '-' := fun e => h (by rw [e]; rfl)
      change Numeral.sign (c :: r) = _
      rw [Numeral.sign]
      intro r' e
      exact hc (List.cons.inj e).1

theorem noDigit_exponent (exponent : Option (Bool × List Char)) :
    NoDigit (exponentText exponent) := by
  cases exponent with
  | none => exact nofun
  | some x =>
    intro c hc
    obtain rfl : 'e' = c := Option.some.inj hc
    rfl

theorem noDigit_fraction (fraction : Option (List Char)) {r : List Char} (hr : NoDigit r) :
    NoDigit (fractionText fraction ++ r) := by
  cases fraction with
  | none => exact hr
  | some fs =>
    intro c hc
    obtain rfl : '.' = c := Option.some.inj hc
    rfl

/-- The whole part of a numeral. -/
theorem wholePart_append (h : WellSpelled whole fraction exponent) {r : List Char}
    (hr : NoDigit r) : Numeral.wholePart (whole ++ r) = .ok (digitValues whole, r) := by
  have hzero : ¬ ((digitValues whole).head? = some 0 ∧ 1 < (digitValues whole).length) := by
    rintro ⟨hhead, hlength⟩
    cases hw : whole with
    | nil => exact h.whole_ne hw
    | cons c cs =>
      rw [hw] at hhead hlength
      have hc : c.toNat - 48 = 0 := by simpa [digitValues] using hhead
      have hdigit : c.isDigit = true := h.whole_digits c (by rw [hw]; exact List.mem_cons_self)
      have hchar : c = '0' := by
        simp only [Char.isDigit, Bool.and_eq_true, decide_eq_true_eq, ge_iff_le] at hdigit
        have hge : 48 ≤ c.val.toNat := UInt32.le_iff_toNat_le.1 hdigit.1
        have hval : c.toNat = 48 := by
          have hdef : c.toNat = c.val.toNat := rfl
          omega
        rw [← Char.ofNat_toNat c, hval]
      -- a zero at the start stands alone, so there is no second digit
      have hsingle := h.whole_zero (by rw [hw, hchar]; rfl)
      rw [hw] at hsingle
      rw [hsingle] at hlength
      exact absurd hlength (by decide)
  rw [Numeral.wholePart, someDigits_append h.whole_digits h.whole_ne hr]
  change (if _ then _ else _) = _
  rw [if_neg hzero]

/-- The fraction of a numeral. -/
theorem fractionPart_append (h : WellSpelled whole fraction exponent) {r : List Char}
    (hr : NoDigit r) (hpoint : r.head? ≠ some '.') :
    Numeral.fractionPart (fractionText fraction ++ r) = .ok (fraction.map digitValues, r) := by
  cases fraction with
  | none =>
    cases r with
    | nil => rfl
    | cons c r =>
      have hc : c ≠ '.' := fun e => hpoint (by rw [e]; rfl)
      change Numeral.fractionPart (c :: r) = _
      rw [Numeral.fractionPart]
      · rfl
      · intro r' e
        exact hc (List.cons.inj e).1
  | some fs =>
    obtain ⟨hdigits, hne⟩ := h.fraction_digits fs rfl
    change Numeral.fractionPart ('.' :: (fs ++ r)) = _
    rw [Numeral.fractionPart, someDigits_append hdigits hne hr]
    rfl

/-- The exponent of a numeral that ends with it. -/
theorem exponentPart_eq (h : WellSpelled whole fraction exponent) :
    Numeral.exponentPart (exponentText exponent) = .ok (exponent.map exponentValue, []) := by
  cases exponent with
  | none => rfl
  | some x =>
    obtain ⟨negative, ds⟩ := x
    obtain ⟨hdigits, hne⟩ := h.exponent_digits _ rfl
    have hsome : Numeral.someDigits ds = .ok (digitValues ds, []) := by
      have happend := someDigits_append hdigits hne (r := []) nofun
      rwa [List.append_nil] at happend
    change Numeral.exponentPart ('e' :: (if negative then '-' else '+') :: ds) = _
    rw [Numeral.exponentPart, if_pos (.inl rfl)]
    cases negative with
    | true =>
      change (Numeral.someDigits ds >>= _) = _
      rw [hsome, Option.map_some, exponentValue, ← digitsValue_digitValues]
      rfl
    | false =>
      change (Numeral.someDigits ds >>= _) = _
      rw [hsome, Option.map_some, exponentValue, ← digitsValue_digitValues]
      rfl

/-- **The parts of a numeral** are found again. -/
theorem read?_spelled (negative : Bool) (h : WellSpelled whole fraction exponent) :
    Numeral.read? (spelled negative whole fraction exponent) =
      .ok (⟨negative, digitValues whole, fraction.map digitValues, exponent.map exponentValue⟩,
        []) := by
  have hexponent := noDigit_exponent exponent
  have hpoint : (exponentText exponent).head? ≠ some '.' := by
    cases exponent <;> simp [exponentText]
  have hminus : (whole ++ (fractionText fraction ++ exponentText exponent)).head? ≠ some '-' := by
    cases hw : whole with
    | nil => exact absurd hw h.whole_ne
    | cons c cs =>
      have hdigit := h.whole_digits c (by rw [hw]; exact List.mem_cons_self)
      intro e
      obtain rfl : c = '-' := by simpa using e
      exact absurd hdigit (by decide)
  rw [Numeral.read?, spelled, sign_append negative hminus]
  change (Numeral.wholePart _ >>= _) = _
  rw [wholePart_append h (noDigit_fraction fraction hexponent)]
  change (Numeral.fractionPart _ >>= _) = _
  rw [fractionPart_append h hexponent hpoint]
  change (Numeral.exponentPart _ >>= _) = _
  rw [exponentPart_eq h]
  rfl

/-! ### One token -/

theorem continuesNumber_of_isDigit {c : Char} (h : c.isDigit = true) (last : Char) :
    continuesNumber last c = true := by
  simp [continuesNumber, isNameContinue, Char.isAlphanum, h]

/-- Digits behind any character. -/
theorem isChain_digits {ds : List Char} (h : AllDigits ds) (last : Char) :
    List.IsChain (fun a b => continuesNumber a b = true) (last :: ds) := by
  induction ds generalizing last with
  | nil => exact List.isChain_singleton last
  | cons c ds ih =>
    rw [AllDigits, List.forall_mem_cons] at h
    exact List.isChain_cons_cons.2 ⟨continuesNumber_of_isDigit h.1 last, ih h.2 c⟩

/-- What begins with a character that goes on with every number stays together with digits before
it. -/
theorem isChain_digits_append {ds r : List Char} {c : Char} (h : AllDigits ds) (last : Char)
    (hc : ∀ a, continuesNumber a c = true)
    (hr : List.IsChain (fun a b => continuesNumber a b = true) (c :: r)) :
    List.IsChain (fun a b => continuesNumber a b = true) (last :: (ds ++ c :: r)) := by
  induction ds generalizing last with
  | nil => exact List.isChain_cons_cons.2 ⟨hc last, hr⟩
  | cons d ds ih =>
    rw [AllDigits, List.forall_mem_cons] at h
    exact List.isChain_cons_cons.2 ⟨continuesNumber_of_isDigit h.1 last, ih h.2 d⟩

theorem continuesNumber_point (a : Char) : continuesNumber a '.' = true := rfl

theorem continuesNumber_exponent (a : Char) : continuesNumber a 'e' = true := rfl

theorem isChain_exponent (negative : Bool) {ds : List Char} (h : AllDigits ds) :
    List.IsChain (fun a b => continuesNumber a b = true)
      ('e' :: (if negative then '-' else '+') :: ds) := by
  cases negative <;> exact List.isChain_cons_cons.2 ⟨rfl, isChain_digits h _⟩

/-- The characters of a numeral stay together. -/
theorem isChain_spelled (h : WellSpelled whole fraction exponent) (last : Char) :
    List.IsChain (fun a b => continuesNumber a b = true)
      (last :: (whole ++ (fractionText fraction ++ exponentText exponent))) := by
  cases hf : fraction with
  | none =>
    cases hx : exponent with
    | none =>
      change List.IsChain _ (last :: (whole ++ []))
      rw [List.append_nil]
      exact isChain_digits h.whole_digits last
    | some x =>
      exact isChain_digits_append h.whole_digits last continuesNumber_exponent
        (isChain_exponent x.1 (h.exponent_digits x hx).1)
  | some fs =>
    have hfs := (h.fraction_digits fs hf).1
    refine isChain_digits_append h.whole_digits last continuesNumber_point ?_
    cases hx : exponent with
    | none =>
      change List.IsChain _ ('.' :: (fs ++ []))
      rw [List.append_nil]
      exact isChain_digits hfs '.'
    | some x =>
      exact isChain_digits_append hfs '.' continuesNumber_exponent
        (isChain_exponent x.1 (h.exponent_digits x hx).1)

/-- A numeral that spells a number is read as the number. -/
theorem scan_spelled {negative : Bool} {n : Number} (h : WellSpelled whole fraction exponent)
    (hn : numberOf? (spelled negative whole fraction exponent) = some n) {r : List Char}
    (hr : Boundary r) :
    scan (spelled negative whole fraction exponent ++ r) = (scan r).map (.number n :: ·) := by
  have hminus := isChain_spelled h '-'
  rw [spelled] at hn ⊢
  cases negative with
  | true => exact scan_number rfl hminus hn hr
  | false =>
    cases hw : whole with
    | nil => exact absurd hw h.whole_ne
    | cons c cs =>
      have hdigit := h.whole_digits c (by rw [hw]; exact List.mem_cons_self)
      rw [hw] at hn hminus
      refine scan_number ?_ (List.isChain_cons_cons.1 hminus).2 hn hr
      rw [hdigit]
      rfl

/-! ### Texts of numbers -/

/-- A numeral without fraction and exponent spells a whole number. -/
theorem numberOf?_whole {negative : Bool} (h : WellSpelled whole none none) :
    numberOf? (spelled negative whole none none) =
      (WideInt.ofInt? (if negative then -(Nat.ofDigitChars 10 whole 0 : Int)
        else (Nat.ofDigitChars 10 whole 0 : Int))).map .whole := by
  rw [numberOf?, read?_spelled negative h]
  simp only [Option.map_none]
  rw [digitsValue_digitValues]

/-- Any other numeral spells the double nearest to its digits, with the point where it stands. -/
theorem numberOf?_double {negative : Bool} (h : WellSpelled whole fraction exponent)
    (hparts : fraction ≠ none ∨ exponent ≠ none) :
    numberOf? (spelled negative whole fraction exponent) =
      (Binary64.magnitudeOfDecimal (Nat.ofDigitChars 10 (whole ++ fraction.getD []) 0)
        ((exponent.map exponentValue).getD 0 - (fraction.getD []).length)).map
          fun m => .double ⟨negative, m⟩ := by
  have hplaces : (fraction.map digitValues).getD [] = digitValues (fraction.getD []) := by
    cases fraction <;> rfl
  have hdigits : digitValues whole ++ digitValues (fraction.getD []) =
      digitValues (whole ++ fraction.getD []) := by
    rw [digitValues, digitValues, digitValues, List.map_append]
  have hlength : (digitValues (fraction.getD [])).length = (fraction.getD []).length := by
    rw [digitValues, List.length_map]
  rw [numberOf?, read?_spelled negative h, ← digitsValue_digitValues, ← hdigits, ← hlength,
    ← hplaces]
  cases fraction with
  | some fs => rfl
  | none =>
    cases exponent with
    | some x => rfl
    | none => exact (hparts.elim (· rfl) (· rfl)).elim

/-- The value of a numeral with a fraction or an exponent. -/
def spelledValue (whole : List Char) (fraction : Option (List Char))
    (exponent : Option (Bool × List Char)) : ℚ :=
  (Nat.ofDigitChars 10 (whole ++ fraction.getD []) 0 : ℚ) *
    10 ^ ((exponent.map exponentValue).getD 0 - (fraction.getD []).length)

/-- The digits of a positive number as a text. -/
structure Leading (ds : List Char) : Prop where
  digits : AllDigits ds
  ne : ds ≠ []
  head : ds.head? ≠ some '0'

theorem leading_decimalDigits {n : Nat} (hn : 0 < n) : Leading (Binary64.decimalDigits n) :=
  ⟨allDigits_decimalDigits n, Nat.toDigits_ne_nil, head?_decimalDigits hn⟩

theorem Leading.take {ds : List Char} (h : Leading ds) {n : Nat} (hn : 0 < n) :
    Leading (ds.take n) := by
  obtain ⟨n, rfl⟩ : ∃ k, n = k + 1 := ⟨n - 1, by omega⟩
  cases hds : ds with
  | nil => exact absurd hds h.ne
  | cons c cs =>
    refine ⟨fun x hx => h.digits x ?_, by simp, ?_⟩
    · rw [hds]
      exact List.mem_of_mem_take hx
    · have hhead := h.head
      rw [hds] at hhead
      exact hhead

theorem wellSpelled_of_leading (h : Leading whole)
    (hfraction : ∀ fs ∈ fraction, AllDigits fs ∧ fs ≠ [])
    (hexponent : ∀ x ∈ exponent, AllDigits x.2 ∧ x.2 ≠ []) :
    WellSpelled whole fraction exponent :=
  ⟨h.digits, h.ne, fun hzero => absurd hzero h.head, hfraction, hexponent⟩

/-- A decimal in positional notation is a numeral with the value of its digits. -/
theorem positional_eq_spelled {ds : List Char} (h : Leading ds) (first : ℤ) :
    ∃ whole fs, Binary64.positional ds first = spelled false whole (some fs) none ∧
      WellSpelled whole (some fs) none ∧
      spelledValue whole (some fs) none =
        (Nat.ofDigitChars 10 ds 0 : ℚ) * 10 ^ (first + 1 - ds.length) := by
  unfold Binary64.positional
  split
  · -- zeros between the point and the digits
    rename_i hneg
    refine ⟨['0'], List.replicate (-first - 1).toNat '0' ++ ds, ?_, ?_, ?_⟩
    · simp [spelled, fractionText, exponentText]
    · refine ⟨allDigits_replicate 1, by decide, fun _ => rfl, ?_, nofun⟩
      intro fs hfs
      obtain rfl : _ = fs := Option.some.inj hfs
      exact ⟨(allDigits_replicate _).append h.digits, by simp [h.ne]⟩
    · have hexp : (0 : ℤ) - (List.replicate (-first - 1).toNat '0' ++ ds).length =
          first + 1 - ds.length := by
        rw [List.length_append, List.length_replicate]
        push_cast
        omega
      have hvalue : Nat.ofDigitChars 10 (['0'] ++ (List.replicate (-first - 1).toNat '0' ++ ds)) 0 =
          Nat.ofDigitChars 10 ds 0 := by
        rw [Nat.ofDigitChars_append, Nat.ofDigitChars_append, Nat.ofDigitChars_replicate_zero]
        rfl
      rw [spelledValue, Option.getD_some, Option.map_none, Option.getD_none, hexp, hvalue]
  · rename_i hnonneg
    dsimp only
    split
    · -- zeros between the digits and the point
      rename_i hlength
      refine ⟨ds ++ List.replicate (first.toNat + 1 - ds.length) '0', ['0'], ?_, ?_, ?_⟩
      · simp [spelled, fractionText, exponentText]
      · refine ⟨h.digits.append (allDigits_replicate _), by simp [h.ne], ?_, ?_, nofun⟩
        · intro hzero
          rw [List.head?_append] at hzero
          cases hds : ds with
          | nil => exact absurd hds h.ne
          | cons c cs =>
            rw [hds] at hzero
            exact absurd (by rw [hds]; exact hzero) h.head
        · intro fs hfs
          obtain rfl : ['0'] = fs := Option.some.inj hfs
          exact ⟨allDigits_replicate 1, by decide⟩
      · have hvalue : Nat.ofDigitChars 10
            (ds ++ List.replicate (first.toNat + 1 - ds.length) '0' ++ ['0']) 0 =
              10 ^ (first.toNat + 1 - ds.length + 1) * Nat.ofDigitChars 10 ds 0 := by
          rw [List.append_assoc, ← List.replicate_succ', Nat.ofDigitChars_append,
            Nat.ofDigitChars_replicate_zero]
        have hexp : first + 1 - (ds.length : ℤ) =
            ((first.toNat + 1 - ds.length + 1 : ℕ) : ℤ) + (0 - 1) := by
          omega
        rw [spelledValue, Option.getD_some, Option.map_none, Option.getD_none, hvalue, hexp,
          zpow_add₀ (by norm_num), zpow_natCast]
        push_cast
        rw [List.length_singleton]
        push_cast
        ring
    · -- the point stands among the digits
      rename_i hlength
      refine ⟨ds.take (first.toNat + 1), ds.drop (first.toNat + 1), ?_, ?_, ?_⟩
      · simp [spelled, fractionText, exponentText]
      · refine wellSpelled_of_leading (h.take (Nat.succ_pos _)) ?_ nofun
        intro fs hfs
        obtain rfl : _ = fs := Option.some.inj hfs
        refine ⟨fun x hx => h.digits x (List.mem_of_mem_drop hx), ?_⟩
        rw [Ne, List.drop_eq_nil_iff]
        omega
      · have hexp : (0 : ℤ) - (ds.drop (first.toNat + 1)).length = first + 1 - ds.length := by
          rw [List.length_drop]
          omega
        rw [spelledValue, Option.getD_some, Option.map_none, Option.getD_none, hexp,
          List.take_append_drop]

/-- A decimal in scientific notation is a numeral with the value of its digits. -/
theorem scientific_eq_spelled {ds : List Char} (h : Leading ds) (first : ℤ) :
    ∃ whole fraction x, Binary64.scientific ds first = spelled false whole fraction (some x) ∧
      WellSpelled whole fraction (some x) ∧
      spelledValue whole fraction (some x) =
        (Nat.ofDigitChars 10 ds 0 : ℚ) * 10 ^ (first + 1 - ds.length) := by
  obtain ⟨fraction, hfraction⟩ : ∃ fraction, fraction =
      if ds.drop 1 = [] then none else some (ds.drop 1) := ⟨_, rfl⟩
  have hparts : fraction.getD [] = ds.drop 1 := by
    rw [hfraction]
    split
    · rename_i hdrop
      rw [hdrop]
      rfl
    · rfl
  have hexponent :
      exponentValue (decide (first < 0), Binary64.decimalDigits first.natAbs) = first := by
    rw [exponentValue, Binary64.decimalDigits, Nat.ofDigitChars_ten_toDigits]
    by_cases hneg : first < 0
    · simp only [hneg, decide_true, if_true]
      omega
    · simp only [hneg, decide_false, Bool.false_eq_true, if_false]
      omega
  refine ⟨ds.take 1, fraction, (decide (first < 0), Binary64.decimalDigits first.natAbs),
    ?_, ?_, ?_⟩
  · rw [hfraction]
    unfold Binary64.scientific spelled
    dsimp only
    cases ds.drop 1 with
    | nil => by_cases hneg : first < 0 <;> simp [hneg, fractionText, exponentText]
    | cons c cs => by_cases hneg : first < 0 <;> simp [hneg, fractionText, exponentText]
  · refine wellSpelled_of_leading (h.take Nat.one_pos) ?_ ?_
    · intro fs hfs
      rw [hfraction] at hfs
      split at hfs
      · cases hfs
      · rename_i hdrop
        obtain rfl : ds.drop 1 = fs := Option.some.inj hfs
        exact ⟨fun x hx => h.digits x (List.mem_of_mem_drop hx), hdrop⟩
    · intro x hx
      obtain rfl : _ = x := Option.some.inj hx
      exact ⟨allDigits_decimalDigits _, Nat.toDigits_ne_nil⟩
  · have hpos : 0 < ds.length := List.length_pos_iff.2 h.ne
    have hexp : first - ((ds.drop 1).length : ℤ) = first + 1 - ds.length := by
      rw [List.length_drop]
      omega
    rw [spelledValue, hparts, Option.map_some, Option.getD_some, hexponent, hexp,
      List.take_append_drop]

/-- The text of a positive magnitude is a numeral that is rounded to it. -/
theorem magnitudeText_eq_spelled {m : ℕ} (hm : 0 < m) (hfinite : m < Binary64.finiteCount) :
    ∃ whole fraction exponent,
      Binary64.magnitudeText m = spelled false whole fraction exponent ∧
      WellSpelled whole fraction exponent ∧ (fraction ≠ none ∨ exponent ≠ none) ∧
      Binary64.Rounds m (spelledValue whole fraction exponent) := by
  have hrounds := Binary64.shortestDecimal_rounds hm hfinite
  obtain ⟨d, hd⟩ : ∃ d, d = (Binary64.shortestDecimal m).1 := ⟨_, rfl⟩
  obtain ⟨p, hp⟩ : ∃ p, p = (Binary64.shortestDecimal m).2 := ⟨_, rfl⟩
  rw [← hd, ← hp] at hrounds
  have hpos : 0 < d := by
    have hvalue := hrounds.pos hm
    by_contra hzero
    obtain rfl : d = 0 := by omega
    simp at hvalue
  have hleading := leading_decimalDigits hpos
  -- the place of the first digit says which of the two notations is used
  obtain ⟨first, hfirst⟩ : ∃ first : ℤ, first = p + (Binary64.decimalDigits d).length - 1 :=
    ⟨_, rfl⟩
  have hvalue : (Nat.ofDigitChars 10 (Binary64.decimalDigits d) 0 : ℚ) *
      10 ^ (first + 1 - (Binary64.decimalDigits d).length) = d * 10 ^ p := by
    have hexp : first + 1 - (Binary64.decimalDigits d).length = p := by omega
    rw [hexp, Binary64.decimalDigits, Nat.ofDigitChars_ten_toDigits]
  have htext : Binary64.magnitudeText m =
      if -5 ≤ first ∧ first ≤ 15 then Binary64.positional (Binary64.decimalDigits d) first
      else Binary64.scientific (Binary64.decimalDigits d) first := by
    unfold Binary64.magnitudeText
    rw [hfirst, hd, hp]
  rw [htext]
  split
  · obtain ⟨whole, fs, heq, hwell, hspelled⟩ := positional_eq_spelled hleading first
    refine ⟨whole, some fs, none, heq, hwell, .inl nofun, ?_⟩
    rw [hspelled, hvalue]
    exact hrounds
  · obtain ⟨whole, fraction, x, heq, hwell, hspelled⟩ := scientific_eq_spelled hleading first
    refine ⟨whole, fraction, some x, heq, hwell, .inr nofun, ?_⟩
    rw [hspelled, hvalue]
    exact hrounds

/-! ### Numbers -/

theorem spelled_sign (negative : Bool) (whole : List Char) (fraction : Option (List Char))
    (exponent : Option (Bool × List Char)) :
    spelled negative whole fraction exponent =
      (if negative then ['-'] else []) ++ spelled false whole fraction exponent := rfl

theorem wellSpelled_decimalDigits (n : Nat) : WellSpelled (Binary64.decimalDigits n) none none := by
  refine ⟨allDigits_decimalDigits n, Nat.toDigits_ne_nil, fun hzero => ?_, nofun, nofun⟩
  cases n with
  | zero => rfl
  | succ n => exact absurd hzero (head?_decimalDigits (Nat.succ_pos n))

/-- **The text of a number** is a numeral, and the numeral spells the number. -/
theorem toText_eq_spelled (n : Number) :
    ∃ negative whole fraction exponent,
      n.toText = spelled negative whole fraction exponent ∧ WellSpelled whole fraction exponent ∧
      numberOf? (spelled negative whole fraction exponent) = some n := by
  cases n with
  | whole w =>
    refine ⟨decide (w.val < 0), Binary64.decimalDigits w.val.natAbs, none, none, ?_,
      wellSpelled_decimalDigits _, ?_⟩
    · rw [Number.toText, WideInt.toText, spelled]
      by_cases hneg : w.val < 0 <;> simp [hneg, fractionText, exponentText]
    · have hvalue :
          (if decide (w.val < 0) = true then -(w.val.natAbs : ℤ) else (w.val.natAbs : ℤ)) =
            w.val := by
        by_cases hneg : w.val < 0
        · simp only [hneg, decide_true, if_true]
          omega
        · simp only [hneg, decide_false, Bool.false_eq_true, if_false]
          omega
      rw [numberOf?_whole (wellSpelled_decimalDigits _), Binary64.decimalDigits,
        Nat.ofDigitChars_ten_toDigits, hvalue, WideInt.ofInt?_val]
      rfl
  | double x =>
    obtain ⟨negative, m, hfinite⟩ := x
    by_cases hm : m = 0
    · -- zero has no shortest decimal, and is written with its sign
      subst hm
      have hwell : WellSpelled ['0'] (some ['0']) none :=
        ⟨allDigits_replicate 1, by decide, fun _ => rfl,
          fun fs hfs => by
            obtain rfl : ['0'] = fs := Option.some.inj hfs
            exact ⟨allDigits_replicate 1, by decide⟩,
          nofun⟩
      refine ⟨negative, ['0'], some ['0'], none, ?_, hwell, ?_⟩
      · cases negative <;> rfl
      · rw [numberOf?_double hwell (.inl nofun)]
        rfl
    · have hpos : 0 < m := Nat.pos_of_ne_zero hm
      obtain ⟨whole, fraction, exponent, htext, hwell, hparts, hrounds⟩ :=
        magnitudeText_eq_spelled hpos hfinite
      refine ⟨negative, whole, fraction, exponent, ?_, hwell, ?_⟩
      · have hzero : (⟨negative, ⟨m, hfinite⟩⟩ : Binary64).isZero = false := by
          simpa [Binary64.isZero] using hm
        rw [Number.toText, Binary64.toText, hzero, spelled_sign, ← htext]
        rfl
      · rw [numberOf?_double hwell hparts,
          Binary64.magnitudeOfDecimal_of_rounds hpos hfinite hrounds]
        rfl

/-- **The text of a number** is read as the number. -/
theorem scan_toText (n : Number) {r : List Char} (hr : Boundary r) :
    scan (n.toText ++ r) = (scan r).map (.number n :: ·) := by
  obtain ⟨negative, whole, fraction, exponent, htext, hwell, hn⟩ := toText_eq_spelled n
  rw [htext]
  exact scan_spelled hwell hn hr

end FieldQuery.Grammar
