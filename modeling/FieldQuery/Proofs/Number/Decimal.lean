/-
**Decimals that name a double.**

The shortest decimal of a double is looked for on finer and finer grids.  On the seventeenth grid
two neighbours are closer together than the doubles are, so that one of the two next to the value
lies in its interval, and the search never ends without a decimal.  A decimal that was found, and
any other way to write the same number, is rounded to the double it was found for.

Main results:

* `Binary64.contains_iff_rounds` — the test for the interval is exact;
* `Binary64.shortestDecimal_rounds` — the shortest decimal lies in the interval;
* `Binary64.magnitudeOfDecimal_of_rounds` — a decimal in the interval is rounded to the magnitude.
-/

import FieldQuery.Proofs.Number.Rounding

set_option autoImplicit false

namespace FieldQuery.Binary64

/-! ### The interval -/

/-- A comparison of fractions over natural numbers. -/
theorem mul_le_mul_iff_div_le_div {a b c d : ℕ} (hb : 0 < b) (hd : 0 < d) :
    a * d ≤ c * b ↔ (a : ℚ) / b ≤ (c : ℚ) / d := by
  have hbQ : (0 : ℚ) < b := by exact_mod_cast hb
  have hdQ : (0 : ℚ) < d := by exact_mod_cast hd
  rw [div_le_div_iff₀ hbQ hdQ]
  exact_mod_cast Iff.rfl

theorem mul_lt_mul_iff_div_lt_div {a b c d : ℕ} (hb : 0 < b) (hd : 0 < d) :
    a * d < c * b ↔ (a : ℚ) / b < (c : ℚ) / d := by
  have hbQ : (0 : ℚ) < b := by exact_mod_cast hb
  have hdQ : (0 : ℚ) < d := by exact_mod_cast hd
  rw [div_lt_div_iff₀ hbQ hdQ]
  exact_mod_cast Iff.rfl

theorem denominator_pos (m : ℕ) : 0 < (interval m).denominator := Nat.pow_pos (by decide)

/-- A number of quarters of the gap above a magnitude, as a fraction. -/
theorem quarters_div (m k : ℕ) :
    ((k * Nat.pow 2 (exponentOf m - 2).toNat : ℕ) : ℚ) / (interval m).denominator =
      (k : ℚ) / 4 * 2 ^ exponentOf m := by
  have hden : (interval m).denominator = Nat.pow 2 (-(exponentOf m - 2)).toNat := rfl
  rw [hden, Nat.cast_mul, mul_div_assoc, pow_toNat_div, zpow_sub₀ (by norm_num)]
  norm_num
  ring

theorem least_div {m : ℕ} (hm : 0 < m) :
    ((interval m).least : ℚ) / (interval m).denominator =
      ((significandOf m : ℚ) - gapBelow m / 4) * 2 ^ exponentOf m := by
  have hleast : (interval m).least =
      (4 * significandOf m - gapBelow m) * Nat.pow 2 (exponentOf m - 2).toNat := rfl
  have hs := significandOf_pos hm
  have hgap := gapBelow_le m
  rw [hleast, quarters_div, Nat.cast_sub (by omega)]
  push_cast
  ring

theorem middle_div (m : ℕ) :
    ((interval m).middle : ℚ) / (interval m).denominator =
      (significandOf m : ℚ) * 2 ^ exponentOf m := by
  have hmiddle : (interval m).middle =
      4 * significandOf m * Nat.pow 2 (exponentOf m - 2).toNat := rfl
  rw [hmiddle, quarters_div]
  push_cast
  ring

theorem greatest_div (m : ℕ) :
    ((interval m).greatest : ℚ) / (interval m).denominator =
      ((significandOf m : ℚ) + 1 / 2) * 2 ^ exponentOf m := by
  have hgreatest : (interval m).greatest =
      (4 * significandOf m + 2) * Nat.pow 2 (exponentOf m - 2).toNat := rfl
  rw [hgreatest, quarters_div]
  push_cast
  ring

/-- **The test for the interval** is exact. -/
theorem contains_iff_rounds {m : ℕ} (hm : 0 < m) (a : ℕ) {b : ℕ} (hb : 0 < b) :
    (interval m).contains a b = true ↔ Rounds m ((a : ℚ) / b) := by
  have hden := denominator_pos m
  have hclosed : (interval m).closed = decide (significandOf m % 2 = 0) := rfl
  unfold Interval.contains
  rw [hclosed]
  by_cases hs : significandOf m % 2 = 0
  · simp only [hs, decide_true, if_true, Bool.and_eq_true, decide_eq_true_eq]
    rw [mul_le_mul_iff_div_le_div hden hb, mul_le_mul_iff_div_le_div hb hden, least_div hm,
      greatest_div]
    exact ⟨fun h => ⟨h.1, h.2, fun _ => hs⟩, fun h => ⟨h.low, h.high⟩⟩
  · simp only [hs, decide_false, Bool.false_eq_true, if_false, Bool.and_eq_true, decide_eq_true_eq]
    rw [mul_lt_mul_iff_div_lt_div hden hb, mul_lt_mul_iff_div_lt_div hb hden, least_div hm,
      greatest_div]
    constructor
    · rintro ⟨hlow, hhigh⟩
      exact ⟨hlow.le, hhigh.le, fun h => absurd h (not_or.2 ⟨hlow.ne', hhigh.ne⟩)⟩
    · intro h
      exact ⟨lt_of_le_of_ne h.low fun e => hs (h.ends (.inl e.symm)),
        lt_of_le_of_ne h.high fun e => hs (h.ends (.inr e))⟩

/-! ### Decimals -/

/-- The fraction of a decimal. -/
theorem decimalFraction_div (d : ℕ) (p : ℤ) :
    ((decimalFraction d p).1 : ℚ) / (decimalFraction d p).2 = d * 10 ^ p := by
  rw [decimalFraction, Nat.cast_mul, mul_div_assoc, pow_toNat_div]
  rfl

theorem decimalFraction_pos (d : ℕ) (p : ℤ) : 0 < (decimalFraction d p).2 :=
  Nat.pow_pos (by decide)

/-- The number of decimal digits gives the decimal order. -/
theorem length_toDigits_spec {d : ℕ} (hd : 0 < d) :
    (10 : ℚ) ^ (((Nat.toDigits 10 d).length : ℤ) - 1) ≤ d ∧
      (d : ℚ) < 10 ^ ((Nat.toDigits 10 d).length : ℤ) := by
  have hpos : 0 < (Nat.toDigits 10 d).length := Nat.length_toDigits_pos
  constructor
  · obtain ⟨k, hk⟩ : ∃ k, (Nat.toDigits 10 d).length = k + 1 :=
      ⟨(Nat.toDigits 10 d).length - 1, by omega⟩
    have hexp : ((k + 1 : ℕ) : ℤ) - 1 = k := by push_cast; ring
    rw [hk, hexp, zpow_natCast]
    have hnat : 10 ^ k ≤ d := by
      by_contra hlt
      cases k with
      | zero => omega
      | succ k =>
        have hle := (Nat.length_toDigits_le_iff (n := d) (by decide : 1 < 10)
          (Nat.succ_pos k)).2 (not_le.1 hlt)
        omega
    exact_mod_cast hnat
  · rw [zpow_natCast]
    exact_mod_cast (Nat.length_toDigits_le_iff (by decide : 1 < 10) hpos).1 (Nat.le_refl _)

/-- A thousand binary places are fewer than four hundred decimal ones. -/
theorem two_zpow_le_ten_zpow : (2 : ℚ) ^ (1200 : ℤ) ≤ 10 ^ (400 : ℤ) := by
  have hcube : (2 : ℚ) ^ (1200 : ℤ) = (2 ^ (3 : ℤ)) ^ (400 : ℤ) := by rw [← zpow_mul]; rfl
  rw [hcube]
  exact zpow_le_zpow_left₀ (by norm_num) (by norm_num) (by norm_num)

theorem Rounds.decimal_pos {m d : ℕ} {e : ℤ} (h : Rounds m (d * 10 ^ e)) (hm : 0 < m) :
    0 < d := by
  have hpos := h.pos hm
  by_contra hzero
  obtain rfl : d = 0 := by omega
  simp at hpos

/-- The order of a decimal in the interval of a magnitude. -/
theorem Rounds.decimal_order {m d : ℕ} {e : ℤ} (hm : 0 < m) (hfinite : m < finiteCount)
    (hd : 0 < d) (h : Rounds m (d * 10 ^ e)) :
    -400 ≤ e + (Nat.toDigits 10 d).length ∧ e + (Nat.toDigits 10 d).length ≤ 400 := by
  obtain ⟨hlow, hhigh⟩ := length_toDigits_spec hd
  have hten : (10 : ℚ) ≠ 0 := by norm_num
  have htwo : (2 : ℚ) ≠ 0 := by norm_num
  have hpow : (0 : ℚ) < 10 ^ e := by positivity
  constructor
  · by_contra hlt
    have hsmall : (d : ℚ) * 10 ^ e < 10 ^ (-400 : ℤ) := by
      calc (d : ℚ) * 10 ^ e < 10 ^ ((Nat.toDigits 10 d).length : ℤ) * 10 ^ e := by gcongr
        _ = 10 ^ (e + (Nat.toDigits 10 d).length) := by rw [← zpow_add₀ hten, add_comm]
        _ ≤ 10 ^ (-400 : ℤ) := zpow_le_zpow_right₀ (by norm_num) (by omega)
    have hs := one_le_significandOf hm
    have hgap := cast_gapBelow_le m
    have hleast : (2 : ℚ) ^ (-1074 : ℤ) ≤ 2 ^ exponentOf m :=
      zpow_le_zpow_right₀ (by norm_num) (le_exponentOf m)
    have hbound : (1 : ℚ) / 2 * 2 ^ (-1074 : ℤ) ≤ d * 10 ^ e := by
      calc (1 : ℚ) / 2 * 2 ^ (-1074 : ℤ)
          ≤ ((significandOf m : ℚ) - gapBelow m / 4) * 2 ^ exponentOf m :=
            mul_le_mul (by linarith) hleast (by positivity) (by linarith)
        _ ≤ d * 10 ^ e := h.low
    have hgrid : (10 : ℚ) ^ (-400 : ℤ) ≤ 1 / 2 * 2 ^ (-1074 : ℤ) := by
      calc (10 : ℚ) ^ (-400 : ℤ) = (10 ^ (400 : ℤ))⁻¹ := zpow_neg _ _
        _ ≤ (2 ^ (1200 : ℤ))⁻¹ := inv_anti₀ (by positivity) two_zpow_le_ten_zpow
        _ = 2 ^ (-1200 : ℤ) := (zpow_neg _ _).symm
        _ ≤ 2 ^ (-1075 : ℤ) := zpow_le_zpow_right₀ (by norm_num) (by norm_num)
        _ = 1 / 2 * 2 ^ (-1074 : ℤ) := by
            have hsum : (-1075 : ℤ) = -1 + -1074 := by norm_num
            rw [hsum, zpow_add₀ htwo, zpow_neg_one, one_div]
    exact absurd (hgrid.trans hbound) (not_le.2 hsmall)
  · by_contra hlt
    have hlarge : (10 : ℚ) ^ (400 : ℤ) ≤ d * 10 ^ e := by
      calc (10 : ℚ) ^ (400 : ℤ) ≤ 10 ^ (e + (Nat.toDigits 10 d).length - 1) :=
            zpow_le_zpow_right₀ (by norm_num) (by omega)
        _ = 10 ^ (((Nat.toDigits 10 d).length : ℤ) - 1) * 10 ^ e := by
            rw [← zpow_add₀ hten]
            congr 1
            ring
        _ ≤ d * 10 ^ e := by gcongr
    have hs := significandOf_le m
    have hgreatest : (2 : ℚ) ^ exponentOf m ≤ 2 ^ (971 : ℤ) :=
      zpow_le_zpow_right₀ (by norm_num) (exponentOf_le hfinite)
    have hbound : (d : ℚ) * 10 ^ e ≤ 9007199254740992 * 2 ^ (971 : ℤ) := by
      calc (d : ℚ) * 10 ^ e ≤ ((significandOf m : ℚ) + 1 / 2) * 2 ^ exponentOf m := h.high
        _ ≤ 9007199254740992 * 2 ^ (971 : ℤ) :=
            mul_le_mul (by linarith) hgreatest (by positivity) (by norm_num)
    have hgrid : (9007199254740992 : ℚ) * 2 ^ (971 : ℤ) < 10 ^ (400 : ℤ) := by
      calc (9007199254740992 : ℚ) * 2 ^ (971 : ℤ) = 2 ^ (53 + 971 : ℤ) := by
            rw [zpow_add₀ htwo]
            norm_num
        _ < 2 ^ (1200 : ℤ) := zpow_lt_zpow_right₀ (by norm_num) (by norm_num)
        _ ≤ 10 ^ (400 : ℤ) := two_zpow_le_ten_zpow
    exact absurd (hlarge.trans hbound) (not_le.2 hgrid)

/-- **A decimal in the interval of a magnitude** is rounded to it, however it is written. -/
theorem magnitudeOfDecimal_of_rounds {m d : ℕ} {e : ℤ} (hm : 0 < m) (hfinite : m < finiteCount)
    (h : Rounds m (d * 10 ^ e)) : magnitudeOfDecimal d e = some ⟨m, hfinite⟩ := by
  have hd := h.decimal_pos hm
  obtain ⟨hlow, hhigh⟩ := h.decimal_order hm hfinite hd
  -- the order keeps the decimal off the shortcuts for what is out of range
  unfold magnitudeOfDecimal
  dsimp only
  rw [if_neg hd.ne', if_neg (by omega), if_neg (by omega)]
  split
  · rename_i he
    refine magnitudeOfRatio_of_rounds hm hfinite Nat.one_pos ?_
    rw [Nat.cast_mul, cast_pow_toNat 10 he, Nat.cast_one, div_one]
    exact h
  · rename_i he
    refine magnitudeOfRatio_of_rounds hm hfinite (Nat.pow_pos (by decide)) ?_
    rw [cast_pow_toNat 10 (by omega : 0 ≤ -e), zpow_neg, div_inv_eq_mul]
    exact h

/-! ### Grids -/

/-- A decimal is tested for the interval by its value. -/
theorem contains_decimal_iff {m : ℕ} (hm : 0 < m) (d : ℕ) (p : ℤ) :
    (interval m).contains (d * (decimalFraction 1 p).1) (decimalFraction 1 p).2 = true ↔
      Rounds m (d * 10 ^ p) := by
  have hfraction := decimalFraction_div 1 p
  rw [contains_iff_rounds hm _ (decimalFraction_pos 1 p), Nat.cast_mul, mul_div_assoc, hfraction,
    Nat.cast_one, one_mul]

/-- A number strictly between the ends of the interval is in it. -/
theorem rounds_of_lt {m : ℕ} {x : ℚ}
    (hlow : ((significandOf m : ℚ) - gapBelow m / 4) * 2 ^ exponentOf m < x)
    (hhigh : x < ((significandOf m : ℚ) + 1 / 2) * 2 ^ exponentOf m) : Rounds m x :=
  ⟨hlow.le, hhigh.le, fun h => absurd h (not_or.2 ⟨hlow.ne', hhigh.ne⟩)⟩

/-- A grid that is finer than the doubles around a magnitude has a decimal in its interval: one of
the two next to the value, for else both ends would be closer to the value than they are. -/
theorem rounds_neighbour {m low : ℕ} {g : ℚ}
    (hlow : (low : ℚ) * g ≤ significandOf m * 2 ^ exponentOf m)
    (hnext : (significandOf m : ℚ) * 2 ^ exponentOf m < (low + 1 : ℕ) * g)
    (hfine : g < 2 ^ exponentOf m) (hfiner : gapBelow m = 1 → 2 * g < 2 ^ exponentOf m) :
    Rounds m (low * g) ∨ Rounds m ((low + 1 : ℕ) * g) := by
  have hpow : (0 : ℚ) < 2 ^ exponentOf m := by positivity
  have hgap := gapBelow_eq_one_or_two m
  have hgapPos : (0 : ℚ) < gapBelow m := by rcases hgap with h | h <;> rw [h] <;> norm_num
  push_cast at hnext ⊢
  by_cases hinside : ((low : ℚ) + 1) * g < ((significandOf m : ℚ) + 1 / 2) * 2 ^ exponentOf m
  · refine .inr (rounds_of_lt ?_ hinside)
    nlinarith
  · rw [not_lt] at hinside
    -- the upper neighbour is half a gap away, so the grid is too wide for a narrow gap below
    have htwo : gapBelow m = 2 := by
      rcases hgap with h | h
      · have hnarrow := hfiner h
        nlinarith
      · exact h
    refine .inl (rounds_of_lt ?_ ?_)
    · rw [htwo]
      push_cast
      nlinarith
    · nlinarith

/-- On such a grid a decimal is found. -/
theorem decimalOnGrid_isSome {m : ℕ} (hm : 0 < m) {p : ℤ}
    (hfine : (10 : ℚ) ^ p < 2 ^ exponentOf m)
    (hfiner : gapBelow m = 1 → 2 * (10 : ℚ) ^ p < 2 ^ exponentOf m) :
    (decimalOnGrid (interval m) p).isSome = true := by
  have hgrid : (0 : ℚ) < 10 ^ p := by positivity
  have hfraction := decimalFraction_div 1 p
  rw [Nat.cast_one, one_mul] at hfraction
  have ha : 0 < (decimalFraction 1 p).1 := by
    rw [decimalFraction, one_mul]
    exact Nat.pow_pos (by decide)
  have hb := decimalFraction_pos 1 p
  have hden := denominator_pos m
  obtain ⟨low, hlowdef⟩ : ∃ low, low = (interval m).middle * (decimalFraction 1 p).2 /
      ((interval m).denominator * (decimalFraction 1 p).1) := ⟨_, rfl⟩
  -- the lower neighbour is the whole part of the value measured in steps of the grid
  have hvalue : ((significandOf m : ℚ) * 2 ^ exponentOf m) / 10 ^ p =
      (((interval m).middle * (decimalFraction 1 p).2 : ℕ) : ℚ) /
        ((interval m).denominator * (decimalFraction 1 p).1 : ℕ) := by
    rw [← middle_div, ← hfraction, div_div_div_eq, Nat.cast_mul, Nat.cast_mul]
  have hpos : 0 < (interval m).denominator * (decimalFraction 1 p).1 := Nat.mul_pos hden ha
  have hposQ : (0 : ℚ) < ((interval m).denominator * (decimalFraction 1 p).1 : ℕ) := by
    exact_mod_cast hpos
  have hlow : (low : ℚ) * 10 ^ p ≤ significandOf m * 2 ^ exponentOf m := by
    rw [← le_div_iff₀ hgrid, hvalue, le_div_iff₀ hposQ, hlowdef]
    exact_mod_cast Nat.div_mul_le_self _ _
  have hnext : (significandOf m : ℚ) * 2 ^ exponentOf m < (low + 1 : ℕ) * 10 ^ p := by
    rw [← div_lt_iff₀ hgrid, hvalue, div_lt_iff₀ hposQ, hlowdef]
    exact_mod_cast Nat.lt_mul_of_div_lt (Nat.lt_succ_self _) hpos
  have hfound := rounds_neighbour hlow hnext hfine hfiner
  rw [← contains_decimal_iff hm, ← contains_decimal_iff hm, hlowdef] at hfound
  unfold decimalOnGrid
  simp only
  rcases hfound with h | h <;> rw [h] <;> split <;> simp_all

/-- A decimal found on one of several grids was found on a grid. -/
theorem decimalOnGrid_of_firstOnGrids {i : Interval} {place p : ℤ} {n d : ℕ}
    (h : firstOnGrids i place n = some (d, p)) : decimalOnGrid i p = some d := by
  induction n generalizing place with
  | zero => cases h
  | succ n ih =>
    rw [firstOnGrids] at h
    cases hd : decimalOnGrid i place with
    | none =>
      rw [hd] at h
      exact ih h
    | some d' =>
      rw [hd] at h
      obtain ⟨rfl, rfl⟩ := Prod.mk.inj (Option.some.inj h)
      exact hd

/-- If a decimal is on one of the grids, the search finds one. -/
theorem firstOnGrids_isSome {i : Interval} {place : ℤ} {n k : ℕ} (hk : k < n)
    (h : (decimalOnGrid i (place - k)).isSome = true) :
    (firstOnGrids i place n).isSome = true := by
  induction n generalizing place k with
  | zero => exact absurd hk (Nat.not_lt_zero k)
  | succ n ih =>
    rw [firstOnGrids]
    cases hd : decimalOnGrid i place with
    | some d => rfl
    | none =>
      cases k with
      | zero =>
        rw [Nat.cast_zero, sub_zero, hd] at h
        cases h
      | succ k =>
        refine ih (Nat.lt_of_succ_lt_succ hk) ?_
        rw [← h]
        congr 2
        push_cast
        ring

/-! ### The shortest decimal -/

/-- The guess of a decimal place from a binary one is at most one too high: `30103 / 100000` is a
little more than the logarithm of two, which makes no difference over the range of doubles. -/
theorem ten_pow_guess_le : ∀ k : ℕ, k < 2098 →
    10 ^ (((k : ℤ) - 1074) * 30103 / 100000 - 1).toNat * 2 ^ (-((k : ℤ) - 1074)).toNat ≤
      2 ^ ((k : ℤ) - 1074).toNat * 10 ^ (-(((k : ℤ) - 1074) * 30103 / 100000 - 1)).toNat := by
  decide +kernel

theorem ten_zpow_guess_le {l : ℤ} (hlow : -1074 ≤ l) (hhigh : l ≤ 1023) :
    (10 : ℚ) ^ (l * 30103 / 100000 - 1) ≤ 2 ^ l := by
  obtain ⟨k, hk⟩ : ∃ k : ℕ, (k : ℤ) = l + 1074 := ⟨(l + 1074).toNat, by omega⟩
  have hguess := ten_pow_guess_le k (by omega)
  have hl : (k : ℤ) - 1074 = l := by omega
  rw [hl] at hguess
  have hten := pow_toNat_div 10 (l * 30103 / 100000 - 1)
  have htwo := pow_toNat_div 2 l
  push_cast at hten htwo
  rw [← hten, ← htwo]
  exact (mul_le_mul_iff_div_le_div (Nat.pow_pos (by decide)) (Nat.pow_pos (by decide))).1 hguess

/-- The place of the first digit of a ratio is not too high. -/
theorem ten_zpow_leadingPlace_le {num den : ℕ} (hnum : 0 < num) (hden : 0 < den)
    (hlow : -1074 ≤ log2Ratio num den) (hhigh : log2Ratio num den ≤ 1023) :
    (10 : ℚ) ^ leadingPlace num den ≤ (num : ℚ) / den := by
  have htest : ∀ p : ℤ, (decimalFraction 1 p).1 * den ≤ num * (decimalFraction 1 p).2 →
      (10 : ℚ) ^ p ≤ (num : ℚ) / den := by
    intro p hp
    have hfraction := decimalFraction_div 1 p
    rw [Nat.cast_one, one_mul] at hfraction
    rw [← hfraction]
    exact (mul_le_mul_iff_div_le_div (decimalFraction_pos 1 p) hden).1 hp
  unfold leadingPlace
  simp only [Bool.not_eq_true', decide_eq_false_iff_not, decide_eq_true_eq]
  split
  · exact (ten_zpow_guess_le hlow hhigh).trans (log2Ratio_spec hnum hden).1
  · rename_i hguess
    split
    · exact htest _ ‹_›
    · exact htest _ (not_not.1 hguess)

/-- Trailing zeros change the digits and the place of a decimal, and not its value. -/
theorem withoutZeros_value (d : ℕ) (p : ℤ) (n : ℕ) :
    ((withoutZeros d p n).1 : ℚ) * 10 ^ (withoutZeros d p n).2 = d * 10 ^ p := by
  induction n generalizing d p with
  | zero => rfl
  | succ n ih =>
    rw [withoutZeros]
    split
    · rename_i hzero
      have hd : d = d / 10 * 10 := by omega
      rw [ih, zpow_add₀ (by norm_num), zpow_one]
      conv_rhs => rw [hd]
      push_cast
      ring
    · rfl

theorem middle_pos {m : ℕ} (hm : 0 < m) : 0 < (interval m).middle :=
  Nat.mul_pos (Nat.mul_pos (by decide) (significandOf_pos hm)) (Nat.pow_pos (by decide))

/-- The binary order of the value of a magnitude. -/
theorem middle_order {m : ℕ} (hm : 0 < m) (hfinite : m < finiteCount) :
    -1074 ≤ log2Ratio (interval m).middle (interval m).denominator ∧
      log2Ratio (interval m).middle (interval m).denominator ≤ 1023 := by
  have htwo : (2 : ℚ) ≠ 0 := by norm_num
  have hpow : (0 : ℚ) < 2 ^ exponentOf m := by positivity
  have hden := denominator_pos m
  have hs := one_le_significandOf hm
  have hmiddle := middle_pos hm
  constructor
  · refine (le_exponentOf m).trans (le_log2Ratio hmiddle hden ?_)
    rw [middle_div]
    nlinarith
  · refine Int.lt_add_one_iff.1 (log2Ratio_lt hmiddle hden ?_)
    have hle : (significandOf m : ℚ) < 2 ^ (53 : ℤ) := by
      have hvalue : (2 : ℚ) ^ (53 : ℤ) = 9007199254740992 := by norm_num
      rw [hvalue]
      linarith [significandOf_le m]
    have hexp := exponentOf_le hfinite
    rw [middle_div]
    calc (significandOf m : ℚ) * 2 ^ exponentOf m < 2 ^ (53 : ℤ) * 2 ^ exponentOf m := by gcongr
      _ = 2 ^ (53 + exponentOf m) := (zpow_add₀ htwo _ _).symm
      _ ≤ 2 ^ (1023 + 1 : ℤ) := zpow_le_zpow_right₀ (by norm_num) (by omega)

/-- **The shortest decimal** of a positive magnitude lies in its interval. -/
theorem shortestDecimal_rounds {m : ℕ} (hm : 0 < m) (hfinite : m < finiteCount) :
    Rounds m ((shortestDecimal m).1 * 10 ^ (shortestDecimal m).2) := by
  have hpow : (0 : ℚ) < 2 ^ exponentOf m := by positivity
  have hden := denominator_pos m
  obtain ⟨hlow, hhigh⟩ := middle_order hm hfinite
  obtain ⟨lead, hlead⟩ : ∃ lead, lead = leadingPlace (interval m).middle (interval m).denominator :=
    ⟨_, rfl⟩
  have hplace : (10 : ℚ) ^ lead ≤ significandOf m * 2 ^ exponentOf m := by
    rw [hlead, ← middle_div]
    exact ten_zpow_leadingPlace_le (middle_pos hm) hden hlow hhigh
  -- sixteen places below the first digit the grid is finer than the doubles
  have hgrid : (10 : ℚ) ^ (lead - (16 : ℕ)) * 10000000000000000 ≤
      significandOf m * 2 ^ exponentOf m := by
    rw [zpow_sub₀ (by norm_num)]
    norm_num
    linarith
  have hs := significandOf_le m
  have hfine : (10 : ℚ) ^ (lead - (16 : ℕ)) < 2 ^ exponentOf m := by nlinarith
  have hfiner : gapBelow m = 1 → 2 * (10 : ℚ) ^ (lead - (16 : ℕ)) < 2 ^ exponentOf m := by
    intro hgap
    have hbinade : significandOf m = binade := by
      unfold gapBelow at hgap
      split at hgap
      · rename_i h
        unfold significandOf
        unfold binade at h ⊢
        split <;> omega
      · cases hgap
    rw [hbinade, cast_binade] at hgrid
    nlinarith
  have hsome := firstOnGrids_isSome (by decide : 16 < 17) (decimalOnGrid_isSome hm hfine hfiner)
  -- so the search does not end without a decimal, and what it finds was tested
  unfold shortestDecimal
  dsimp only
  rw [← hlead]
  cases hfirst : firstOnGrids (interval m) lead 17 with
  | none =>
    rw [hfirst] at hsome
    cases hsome
  | some found =>
    obtain ⟨d, p⟩ := found
    dsimp only
    rw [withoutZeros_value, ← contains_decimal_iff hm]
    exact decimalOnGrid_inside (decimalOnGrid_of_firstOnGrids hfirst)

end FieldQuery.Binary64
