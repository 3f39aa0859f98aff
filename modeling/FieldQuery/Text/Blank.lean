/-
**Blanks.**

Keys of a selection may be written with blanks around them, and a key that differs from another
only in those blanks names the same field.  What counts as a blank is decided here, once: the
characters with the Unicode property `White_Space`, which is wider than the ASCII class of the core
library and narrower than "looks empty" (a zero-width space is not blank).

Main definitions:

* `Text.isBlank` — the property `White_Space`;
* `Text.trimStart`, `Text.trimEnd`, `Text.trim` — a text without its outer blanks.

Main results:

* `Text.trim_eq_self_iff` — trimming leaves alone exactly the texts without outer blanks;
* `Text.trim_infix`, `Text.trim_trim` — a trimmed text is a part of the text, and it is trimmed
  already.
-/

set_option autoImplicit false

namespace FieldQuery.Text

/-! ### The property -/

/-- A character with the Unicode property `White_Space`. -/
def isBlank (c : Char) : Bool :=
  let n := c.toNat
  (0x9 ≤ n && n ≤ 0xD) || n == 0x20 || n == 0x85 || n == 0xA0 || n == 0x1680 ||
    (0x2000 ≤ n && n ≤ 0x200A) || n == 0x2028 || n == 0x2029 || n == 0x202F || n == 0x205F ||
    n == 0x3000

/-! ### Trimming -/

/-- A text without its leading blanks. -/
def trimStart (cs : List Char) : List Char := cs.dropWhile isBlank

/-- A text without its trailing blanks. -/
def trimEnd (cs : List Char) : List Char := (cs.reverse.dropWhile isBlank).reverse

/-- A text without its outer blanks. -/
def trim (cs : List Char) : List Char := trimEnd (trimStart cs)

theorem trimStart_eq_self_iff {cs : List Char} :
    trimStart cs = cs ↔ ∀ c ∈ cs.head?, isBlank c = false := by
  cases cs with
  | nil => simp [trimStart]
  | cons c r =>
    cases h : isBlank c with
    | false => simp [trimStart, h]
    | true =>
      have hlen : (r.dropWhile isBlank).length ≤ r.length := (r.dropWhile_suffix isBlank).length_le
      simp only [trimStart, List.dropWhile_cons, h, if_true, List.head?_cons, Option.mem_def,
        Option.some.injEq, forall_eq', Bool.true_eq_false, iff_false]
      intro e
      have := congrArg List.length e
      simp only [List.length_cons] at this
      omega

theorem trimEnd_eq_self_iff {cs : List Char} :
    trimEnd cs = cs ↔ ∀ c ∈ cs.getLast?, isBlank c = false := by
  have h := @trimStart_eq_self_iff cs.reverse
  rw [List.head?_reverse] at h
  rw [← h, trimEnd, trimStart, List.reverse_eq_iff]

theorem trimEnd_length_le (cs : List Char) : (trimEnd cs).length ≤ cs.length := by
  have := (cs.reverse.dropWhile_suffix isBlank).length_le
  simpa [trimEnd] using this

/-- Trimming leaves alone exactly the texts that neither start nor end with a blank. -/
theorem trim_eq_self_iff {cs : List Char} :
    trim cs = cs ↔
      (∀ c ∈ cs.head?, isBlank c = false) ∧ ∀ c ∈ cs.getLast?, isBlank c = false := by
  rw [← trimStart_eq_self_iff, ← trimEnd_eq_self_iff]
  constructor
  · intro h
    have h₁ := trimEnd_length_le (trimStart cs)
    have h₂ : (trim cs).length = cs.length := by rw [h]
    have hle : cs.length ≤ (trimStart cs).length := by
      unfold trim at h₂
      omega
    have h₃ : trimStart cs = cs := (cs.dropWhile_suffix isBlank).eq_of_length_le hle
    exact ⟨h₃, by rw [trim, h₃] at h; exact h⟩
  · rintro ⟨h₁, h₂⟩
    rw [trim, h₁, h₂]

theorem isPrefix_trimEnd (cs : List Char) : trimEnd cs <+: cs := by
  rw [← List.reverse_suffix, trimEnd, List.reverse_reverse]
  exact List.dropWhile_suffix isBlank

theorem trim_infix (cs : List Char) : trim cs <:+: cs :=
  (isPrefix_trimEnd (trimStart cs)).isInfix.trans (List.dropWhile_suffix isBlank).isInfix

/-- Without its leading blanks a text does not start with one. -/
theorem isBlank_of_head?_trimStart {cs : List Char} {c : Char} (h : c ∈ (trimStart cs).head?) :
    isBlank c = false := by
  have hnot := List.head?_dropWhile_not isBlank cs
  rw [show (cs.dropWhile isBlank).head? = some c from h] at hnot
  exact hnot

/-- A trimmed text is trimmed already. -/
theorem trim_trim (cs : List Char) : trim (trim cs) = trim cs := by
  rw [trim_eq_self_iff]
  constructor
  · intro c hc
    -- trimming the end keeps the start, if it leaves anything at all
    obtain ⟨rest, hrest⟩ := isPrefix_trimEnd (trimStart cs)
    have hstart : (trimStart cs).head? = some c := by
      rw [← hrest, List.head?_append, ← trim, show (trim cs).head? = some c from hc]
      rfl
    exact isBlank_of_head?_trimStart hstart
  · intro c hc
    rw [trim, trimEnd, List.getLast?_reverse] at hc
    exact isBlank_of_head?_trimStart hc

end FieldQuery.Text
