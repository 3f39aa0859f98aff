/-
**Ratios and doubles.**

Rounding is computed with whole numbers, numerators and denominators shifted by powers of two.
Here it is seen as what it is, an operation on rational numbers: a magnitude has the value
`significand * 2 ^ exponent`, the numbers that round to it lie between the half-way points to its
neighbours, and every ratio between them is rounded to it.

Main definitions:

* `Binary64.Rounds` — a rational number lies in the interval of a magnitude.

Main results:

* `Binary64.log2Ratio_spec` — the binary order of a ratio;
* `Binary64.roundDiv_eq_of_near` — a ratio within one half of a number is rounded to it;
* `Binary64.magnitudeOfRatio_of_rounds` — a ratio in the interval of a magnitude is rounded to it.
-/

import FieldQuery.Number.Shortest
import Mathlib.Algebra.Order.Field.Rat
import Mathlib.Algebra.Order.Field.Power
import Mathlib.Data.Nat.Log
import Mathlib.Tactic.Positivity
import Mathlib.Tactic.Linarith
import Mathlib.Tactic.FieldSimp
import Mathlib.Tactic.Ring

set_option autoImplicit false

namespace FieldQuery.Binary64

/-! ### Powers -/

/-- A power with a natural exponent, as one with an integer exponent. -/
theorem cast_pow_toNat (b : ℕ) {k : ℤ} (hk : 0 ≤ k) :
    ((Nat.pow b k.toNat : ℕ) : ℚ) = (b : ℚ) ^ k := by
  have hcast : ((Nat.pow b k.toNat : ℕ) : ℚ) = (b : ℚ) ^ k.toNat := Nat.cast_pow b k.toNat
  rw [hcast, ← zpow_natCast, Int.toNat_of_nonneg hk]

/-- A power with an integer exponent, as a quotient of powers with natural exponents. -/
theorem pow_toNat_div (b : ℕ) (k : ℤ) :
    ((Nat.pow b k.toNat : ℕ) : ℚ) / (Nat.pow b (-k).toNat : ℕ) = (b : ℚ) ^ k := by
  rcases le_total 0 k with hk | hk
  · have hneg : (-k).toNat = 0 := by omega
    rw [cast_pow_toNat b hk, hneg]
    simp
  · have hpos : k.toNat = 0 := by omega
    rw [cast_pow_toNat b (by omega : 0 ≤ -k), hpos, zpow_neg]
    simp

/-- A fraction shifted by a power of two. -/
theorem scaled_spec (num : ℕ) {den : ℕ} (hden : 0 < den) (e : ℤ) :
    0 < (scaled num den e).2 ∧
      ((scaled num den e).1 : ℚ) / (scaled num den e).2 = (num : ℚ) / den / 2 ^ e := by
  unfold scaled
  split
  · rename_i he
    refine ⟨Nat.mul_pos hden (Nat.pow_pos (by decide)), ?_⟩
    rw [Nat.cast_mul, cast_pow_toNat 2 he, div_div]
    rfl
  · rename_i he
    refine ⟨hden, ?_⟩
    rw [Nat.cast_mul, cast_pow_toNat 2 (by omega : 0 ≤ -e), zpow_neg]
    push_cast
    ring

/-- The binary order of a positive number. -/
theorem log2_spec {n : ℕ} (hn : 0 < n) :
    (2 : ℚ) ^ (n.log2 : ℤ) ≤ n ∧ (n : ℚ) < 2 ^ ((n.log2 : ℤ) + 1) := by
  constructor
  · rw [zpow_natCast]
    exact_mod_cast Nat.log2_self_le hn.ne'
  · have hlt : n < 2 ^ (n.log2 + 1) := Nat.lt_log2_self
    have hexp : (n.log2 : ℤ) + 1 = ((n.log2 + 1 : ℕ) : ℤ) := by push_cast; rfl
    rw [hexp, zpow_natCast]
    exact_mod_cast hlt

/-- The binary order of a positive ratio. -/
theorem log2Ratio_spec {num den : ℕ} (hnum : 0 < num) (hden : 0 < den) :
    (2 : ℚ) ^ log2Ratio num den ≤ (num : ℚ) / den ∧
      (num : ℚ) / den < 2 ^ (log2Ratio num den + 1) := by
  obtain ⟨hnumLow, hnumHigh⟩ := log2_spec hnum
  obtain ⟨hdenLow, hdenHigh⟩ := log2_spec hden
  have hdenQ : (0 : ℚ) < den := by exact_mod_cast hden
  have htwo : (2 : ℚ) ≠ 0 := by norm_num
  obtain ⟨e, he⟩ : ∃ e : ℤ, e = (num.log2 : ℤ) - den.log2 := ⟨_, rfl⟩
  have hlow : (2 : ℚ) ^ (e - 1) ≤ (num : ℚ) / den := by
    rw [le_div_iff₀ hdenQ]
    calc (2 : ℚ) ^ (e - 1) * den ≤ 2 ^ (e - 1) * 2 ^ ((den.log2 : ℤ) + 1) := by gcongr
      _ = 2 ^ (num.log2 : ℤ) := by rw [← zpow_add₀ htwo]; congr 1; omega
      _ ≤ num := hnumLow
  have hhigh : (num : ℚ) / den < 2 ^ (e + 1) := by
    rw [div_lt_iff₀ hdenQ]
    calc (num : ℚ) < 2 ^ ((num.log2 : ℤ) + 1) := hnumHigh
      _ = 2 ^ (e + 1) * 2 ^ (den.log2 : ℤ) := by rw [← zpow_add₀ htwo]; congr 1; omega
      _ ≤ 2 ^ (e + 1) * den := by gcongr
  obtain ⟨hb, hab⟩ := scaled_spec num hden e
  have hbQ : (0 : ℚ) < (scaled num den e).2 := by exact_mod_cast hb
  have hcut : (scaled num den e).1 < (scaled num den e).2 ↔ (num : ℚ) / den < 2 ^ e := by
    have hone : (num : ℚ) / den < 2 ^ e ↔ (num : ℚ) / den / 2 ^ e < 1 := by
      rw [div_lt_one (by positivity)]
    rw [hone, ← hab, div_lt_one hbQ]
    exact_mod_cast Iff.rfl
  have hlog : log2Ratio num den = if (num : ℚ) / den < 2 ^ e then e - 1 else e := by
    unfold log2Ratio
    simp only [← he, hcut]
  rw [hlog]
  split
  · rename_i hlt
    rw [sub_add_cancel]
    exact ⟨hlow, hlt⟩
  · rename_i hge
    exact ⟨not_lt.1 hge, hhigh⟩

/-- The binary order of a ratio lies where its bounds lie. -/
theorem log2Ratio_lt {num den : ℕ} (hnum : 0 < num) (hden : 0 < den) {e : ℤ}
    (h : (num : ℚ) / den < 2 ^ e) : log2Ratio num den < e := by
  by_contra hle
  have hpow : (2 : ℚ) ^ e ≤ 2 ^ log2Ratio num den :=
    zpow_le_zpow_right₀ (by norm_num) (not_lt.1 hle)
  linarith [(log2Ratio_spec hnum hden).1]

theorem le_log2Ratio {num den : ℕ} (hnum : 0 < num) (hden : 0 < den) {e : ℤ}
    (h : (2 : ℚ) ^ e ≤ (num : ℚ) / den) : e ≤ log2Ratio num den := by
  by_contra hlt
  have hpow : (2 : ℚ) ^ (log2Ratio num den + 1) ≤ 2 ^ e :=
    zpow_le_zpow_right₀ (by norm_num) (by omega)
  linarith [(log2Ratio_spec hnum hden).2]

/-! ### Rounding to whole numbers -/

theorem roundDiv_near (a : ℕ) {b : ℕ} (hb : 0 < b) :
    (roundDiv a b : ℚ) ≤ (a : ℚ) / b + 1 / 2 ∧ (a : ℚ) / b ≤ roundDiv a b + 1 / 2 := by
  have hbQ : (0 : ℚ) < b := by exact_mod_cast hb
  have hle : (2 : ℚ) * (roundDiv a b * b) ≤ 2 * a + b := by exact_mod_cast roundDiv_le a hb
  have hge : (2 : ℚ) * a ≤ 2 * (roundDiv a b * b) + b := by exact_mod_cast le_roundDiv a hb
  have hdiv : (a : ℚ) / b * b = a := div_mul_cancel₀ _ hbQ.ne'
  constructor
  · by_contra hlt
    nlinarith
  · by_contra hlt
    nlinarith

/-- Of two equally near numbers the even one is taken. -/
theorem roundDiv_even {a b : ℕ} (h : 2 * (a % b) = b) : roundDiv a b % 2 = 0 := by
  unfold roundDiv
  simp only [h, lt_irrefl, if_false]
  split
  · assumption
  · omega

/-- A ratio halfway between two numbers leaves half of the denominator. -/
theorem two_mul_mod_of_odd {a b : ℕ} {k : ℤ} (hb : 0 < b) (hk : k % 2 = 1)
    (h : 2 * (a : ℤ) = k * b) : 2 * (a % b) = b := by
  have hsplit : (b : ℤ) * (a / b : ℕ) + (a % b : ℕ) = a := by exact_mod_cast Nat.div_add_mod a b
  have hlt : a % b < b := Nat.mod_lt a hb
  have hval : 2 * ((a % b : ℕ) : ℤ) = (k - 2 * (a / b : ℕ)) * b := by
    rw [sub_mul, ← h, ← hsplit]
    ring
  obtain ⟨j, hj⟩ : ∃ j : ℤ, j = k - 2 * (a / b : ℕ) := ⟨_, rfl⟩
  rw [← hj] at hval
  have hbZ : (0 : ℤ) < b := by exact_mod_cast hb
  have hltZ : ((a % b : ℕ) : ℤ) < b := by exact_mod_cast hlt
  have hjpos : 0 ≤ j := by
    by_contra hneg
    nlinarith
  have hjlt : j < 2 := by
    by_contra hge
    nlinarith
  have hone : j = 1 := by omega
  rw [hone, one_mul] at hval
  exact_mod_cast hval

/-- **A ratio within one half of a number** is rounded to it; at the ends only to an even one. -/
theorem roundDiv_eq_of_near {a b n : ℕ} (hb : 0 < b) (hlow : (n : ℚ) - 1 / 2 ≤ (a : ℚ) / b)
    (hhigh : (a : ℚ) / b ≤ n + 1 / 2)
    (heven : (a : ℚ) / b = n - 1 / 2 ∨ (a : ℚ) / b = n + 1 / 2 → n % 2 = 0) :
    roundDiv a b = n := by
  obtain ⟨hle, hge⟩ := roundDiv_near a hb
  have hupper : roundDiv a b ≤ n + 1 := by
    have hQ : (roundDiv a b : ℚ) ≤ (n + 1 : ℕ) := by push_cast; linarith
    exact_mod_cast hQ
  have hlower : n ≤ roundDiv a b + 1 := by
    have hQ : (n : ℚ) ≤ (roundDiv a b + 1 : ℕ) := by push_cast; linarith
    exact_mod_cast hQ
  by_contra hne
  -- a neighbour is as near only if the ratio is halfway between the two
  have htie : (a : ℚ) / b = n - 1 / 2 ∨ (a : ℚ) / b = n + 1 / 2 := by
    rcases Nat.lt_or_gt_of_ne hne with hlt | hgt
    · have hval : n = roundDiv a b + 1 := by omega
      have hQ : (n : ℚ) = roundDiv a b + 1 := by exact_mod_cast hval
      exact .inl (by linarith)
    · have hval : roundDiv a b = n + 1 := by omega
      have hQ : (roundDiv a b : ℚ) = n + 1 := by exact_mod_cast hval
      exact .inr (by linarith)
  have hn := heven htie
  have hbQ : (0 : ℚ) < b := by exact_mod_cast hb
  have hhalf : 2 * (a % b) = b := by
    rcases htie with h | h
    · refine two_mul_mod_of_odd (k := 2 * n - 1) hb (by omega) ?_
      rw [div_eq_iff hbQ.ne'] at h
      have hQ : 2 * (a : ℚ) = (2 * n - 1) * b := by rw [h]; ring
      exact_mod_cast hQ
    · refine two_mul_mod_of_odd (k := 2 * n + 1) hb (by omega) ?_
      rw [div_eq_iff hbQ.ne'] at h
      have hQ : 2 * (a : ℚ) = (2 * n + 1) * b := by rw [h]; ring
      exact_mod_cast hQ
  have hround := roundDiv_even hhalf
  omega

/-! ### Magnitudes -/

/-- A magnitude is the number of the binades below it and its place in its own. -/
theorem significandOf_add (m : ℕ) :
    (exponentOf m + 1074).toNat * binade + significandOf m = m := by
  unfold exponentOf significandOf binade
  split <;> omega

theorem le_exponentOf (m : ℕ) : -1074 ≤ exponentOf m := by
  unfold exponentOf binade
  split <;> omega

theorem exponentOf_le {m : ℕ} (h : m < finiteCount) : exponentOf m ≤ 971 := by
  unfold finiteCount at h
  unfold exponentOf binade
  split <;> omega

theorem significandOf_lt (m : ℕ) : significandOf m < 2 * binade := by
  unfold significandOf binade
  split <;> omega

/-- The greatest significand. -/
theorem significandOf_le (m : ℕ) : (significandOf m : ℚ) ≤ 9007199254740991 := by
  have hnat := significandOf_lt m
  unfold binade at hnat
  exact_mod_cast (by omega : significandOf m ≤ 9007199254740991)

theorem significandOf_pos {m : ℕ} (h : 0 < m) : 0 < significandOf m := by
  unfold significandOf binade
  split <;> omega

theorem one_le_significandOf {m : ℕ} (h : 0 < m) : (1 : ℚ) ≤ significandOf m := by
  exact_mod_cast significandOf_pos h

/-- The least significand with all its bits. -/
theorem cast_binade : ((binade : ℕ) : ℚ) = 4503599627370496 := by norm_num [binade]

/-- Above the least exponent the significand has all its bits. -/
theorem binade_le_significandOf {m : ℕ} (h : -1074 < exponentOf m) :
    binade ≤ significandOf m := by
  unfold exponentOf at h
  unfold significandOf
  split at h
  · omega
  · rename_i hq
    rw [if_neg hq]
    omega

/-- The width of the gap below a magnitude, in quarters of the gap above it. -/
def gapBelow (m : ℕ) : ℕ := if m % binade = 0 ∧ binade < m then 1 else 2

theorem gapBelow_le (m : ℕ) : gapBelow m ≤ 2 := by
  unfold gapBelow
  split <;> omega

theorem cast_gapBelow_le (m : ℕ) : (gapBelow m : ℚ) ≤ 2 := by
  exact_mod_cast gapBelow_le m

theorem gapBelow_eq_one_or_two (m : ℕ) : gapBelow m = 1 ∨ gapBelow m = 2 := by
  unfold gapBelow
  split
  · exact .inl rfl
  · exact .inr rfl

/-- Above the least exponent the gap below the least significand is half as wide. -/
theorem gapBelow_of_significandOf {m : ℕ} (he : -1074 < exponentOf m)
    (hs : significandOf m = binade) : gapBelow m = 1 := by
  have hm := significandOf_add m
  rw [hs] at hm
  obtain ⟨k, hk⟩ : ∃ k : ℕ, (exponentOf m + 1074).toNat = k + 1 :=
    ⟨(exponentOf m + 1074).toNat - 1, by omega⟩
  rw [hk] at hm
  rw [gapBelow, if_pos]
  unfold binade at hm ⊢
  omega

/-- A rational number is in the interval of a magnitude: between the half-way points to its
neighbours, and at one of them only if the significand is even. -/
structure Rounds (m : ℕ) (x : ℚ) : Prop where
  low : ((significandOf m : ℚ) - gapBelow m / 4) * 2 ^ exponentOf m ≤ x
  high : x ≤ ((significandOf m : ℚ) + 1 / 2) * 2 ^ exponentOf m
  ends : x = ((significandOf m : ℚ) - gapBelow m / 4) * 2 ^ exponentOf m ∨
    x = ((significandOf m : ℚ) + 1 / 2) * 2 ^ exponentOf m → significandOf m % 2 = 0

theorem Rounds.pos {m : ℕ} {x : ℚ} (h : Rounds m x) (hm : 0 < m) : 0 < x := by
  have hs := one_le_significandOf hm
  have hgap := cast_gapBelow_le m
  have hpow : (0 : ℚ) < 2 ^ exponentOf m := by positivity
  have hlow := h.low
  nlinarith

/-- A ratio in the interval of a magnitude is looked at with the exponent of the magnitude, or
else it lies just below the least significand and is looked at with the exponent below. -/
theorem Rounds.exponent {m num den : ℕ} (hnum : 0 < num) (hden : 0 < den)
    (h : Rounds m ((num : ℚ) / den)) :
    max (log2Ratio num den - 52) (-1074) = exponentOf m ∨
      max (log2Ratio num den - 52) (-1074) = exponentOf m - 1 ∧ significandOf m = binade ∧
        gapBelow m = 1 ∧ (num : ℚ) / den < 2 ^ (52 : ℤ) * 2 ^ exponentOf m := by
  have htwo : (2 : ℚ) ≠ 0 := by norm_num
  have hpow : (0 : ℚ) < 2 ^ exponentOf m := by positivity
  have hleast := le_exponentOf m
  have hlow := h.low
  have hhigh := h.high
  have hgap := cast_gapBelow_le m
  have hlt : log2Ratio num den < 53 + exponentOf m := by
    refine log2Ratio_lt hnum hden ?_
    have hs := significandOf_le m
    have h53 : (2 : ℚ) ^ (53 : ℤ) = 9007199254740992 := by norm_num
    rw [zpow_add₀ htwo, h53]
    nlinarith
  by_cases he : exponentOf m = -1074
  · left
    omega
  have hfull := binade_le_significandOf (m := m) (by omega)
  by_cases hcut : (2 : ℚ) ^ (52 : ℤ) * 2 ^ exponentOf m ≤ (num : ℚ) / den
  · left
    rw [← zpow_add₀ htwo] at hcut
    have hle := le_log2Ratio hnum hden hcut
    omega
  · right
    rw [not_le] at hcut
    -- only the least significand reaches below its own binade
    have hs : significandOf m = binade := by
      have hsmall : (significandOf m : ℚ) < 4503599627370497 := by
        by_contra hge
        rw [not_lt] at hge
        have h52 : (2 : ℚ) ^ (52 : ℤ) = 4503599627370496 := by norm_num
        rw [h52] at hcut
        nlinarith
      have hnat : significandOf m < 4503599627370497 := by exact_mod_cast hsmall
      unfold binade at hfull ⊢
      omega
    have hone := gapBelow_of_significandOf (m := m) (by omega) hs
    refine ⟨?_, hs, hone, hcut⟩
    have hle : 51 + exponentOf m ≤ log2Ratio num den := by
      refine le_log2Ratio hnum hden ?_
      rw [zpow_add₀ htwo]
      rw [hs, hone] at hlow
      have h51 : (2 : ℚ) ^ (51 : ℤ) = 2251799813685248 := by norm_num
      rw [h51]
      rw [cast_binade] at hlow
      push_cast at hlow
      nlinarith
    rw [← zpow_add₀ htwo] at hcut
    have hlt' := log2Ratio_lt hnum hden hcut
    omega

/-- **A ratio in the interval of a magnitude** is rounded to it. -/
theorem magnitudeOfRatio_of_rounds {m num den : ℕ} (hm : 0 < m) (hfinite : m < finiteCount)
    (hden : 0 < den) (h : Rounds m ((num : ℚ) / den)) :
    magnitudeOfRatio num den = some ⟨m, hfinite⟩ := by
  have hnum : 0 < num := by
    have hpos := h.pos hm
    by_contra hzero
    obtain rfl : num = 0 := by omega
    simp at hpos
  have htwo : (2 : ℚ) ≠ 0 := by norm_num
  have hpow : (0 : ℚ) < 2 ^ exponentOf m := by positivity
  have hleast := le_exponentOf m
  have hsplit := significandOf_add m
  have hmagnitude : ∀ k, k = m → magnitudeAt k = some ⟨m, hfinite⟩ := by
    rintro k rfl
    rw [magnitudeAt, dif_pos hfinite]
  unfold magnitudeOfRatio
  rw [if_neg hnum.ne']
  dsimp only
  rcases h.exponent hnum hden with he | ⟨he, hs, hone, hcut⟩
  · rw [he]
    obtain ⟨hb, hab⟩ := scaled_spec num hden (exponentOf m)
    have hround : roundDiv (scaled num den (exponentOf m)).1 (scaled num den (exponentOf m)).2 =
        significandOf m := by
      have hlow := h.low
      have hhigh := h.high
      have hgap := cast_gapBelow_le m
      have hval : (num : ℚ) / den = (num : ℚ) / den / 2 ^ exponentOf m * 2 ^ exponentOf m :=
        (div_mul_cancel₀ _ hpow.ne').symm
      refine roundDiv_eq_of_near hb ?_ ?_ ?_
      · rw [hab, le_div_iff₀ hpow]
        nlinarith
      · rw [hab, div_le_iff₀ hpow]
        exact hhigh
      · rw [hab]
        rintro (hend | hend)
        · refine h.ends (.inl (le_antisymm ?_ hlow))
          rw [hval, hend]
          nlinarith
        · refine h.ends (.inr ?_)
          rw [hval, hend]
    rw [hround]
    exact hmagnitude _ hsplit
  · rw [he]
    obtain ⟨hb, hab⟩ := scaled_spec num hden (exponentOf m - 1)
    have hhalf : (num : ℚ) / den / 2 ^ (exponentOf m - 1) =
        2 * ((num : ℚ) / den / 2 ^ exponentOf m) := by
      rw [zpow_sub₀ htwo, zpow_one]
      field_simp
    -- the exponent below doubles the significand, and the quarter that is missing is half a unit
    have hround : roundDiv (scaled num den (exponentOf m - 1)).1
        (scaled num den (exponentOf m - 1)).2 = 2 * binade := by
      have hlow := h.low
      rw [hs, hone] at hlow
      have h52 : (2 : ℚ) ^ (52 : ℤ) = 4503599627370496 := by norm_num
      rw [h52] at hcut
      rw [cast_binade] at hlow
      push_cast at hlow
      have hcutDiv : (num : ℚ) / den / 2 ^ exponentOf m < 4503599627370496 := by
        rw [div_lt_iff₀ hpow]
        exact hcut
      have hlowDiv : (4503599627370496 : ℚ) - 1 / 4 ≤ (num : ℚ) / den / 2 ^ exponentOf m := by
        rw [le_div_iff₀ hpow]
        exact hlow
      refine roundDiv_eq_of_near hb ?_ ?_ fun _ => Nat.mul_mod_right 2 binade
      · rw [hab, hhalf]
        push_cast
        rw [cast_binade]
        linarith
      · rw [hab, hhalf]
        push_cast
        rw [cast_binade]
        linarith
    rw [hround]
    refine hmagnitude _ ?_
    have hcount : (exponentOf m + 1074).toNat = (exponentOf m - 1 + 1074).toNat + 1 := by
      have hlarge : -1074 ≤ exponentOf m - 1 := by
        rw [← he]
        exact le_max_right _ _
      omega
    rw [hcount, hs] at hsplit
    calc (exponentOf m - 1 + 1074).toNat * binade + 2 * binade
        = ((exponentOf m - 1 + 1074).toNat + 1) * binade + binade := by ring
      _ = m := hsplit

end FieldQuery.Binary64
