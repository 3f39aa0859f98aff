/-
**Cutting texts at separators.**

Paths, bindings, placeholders and keys are all texts with separators in them, and they differ in
which occurrence counts: a path is cut at every dot, a binding at the first equals sign, a key
keeps what follows its last colon.  This module holds the cuts, each as a structural recursion on
the characters.

Main definitions:

* `Text.pieces` — the pieces between all occurrences of a character;
* `Text.cutAt` — the text before and after the first occurrence of a character;
* `Text.cutAtText` — the same for a separator of several characters;
* `Text.afterLast` — what follows the last occurrence of a character.

Main results:

* `Text.pieces_append_cons` — a separator ends the pieces before it;
* `Text.mem_of_mem_pieces` — a piece has characters of the text, and no separator;
* `Text.intercalate_pieces`, `Text.intercalate_solidPieces_sublist` — the pieces with the separator
  between them are the text, and the solid ones fit into it;
* `Text.cutAt_eq_some_iff` — the first cut is the one whose left part is free of the separator;
* `Text.not_mem_afterLast` — nothing of the separator is left after the last cut.
-/

set_option autoImplicit false

namespace FieldQuery.Text

/-! ### At every occurrence -/

/-- The pieces between the occurrences of `sep`; there is always at least one. -/
def pieces (sep : Char) : List Char → List (List Char)
  | [] => [[]]
  | c :: r =>
    if c = sep then [] :: pieces sep r
    else
      match pieces sep r with
      | [] => [[c]]
      | p :: ps => (c :: p) :: ps

/-- The pieces that hold at least one character. -/
def solidPieces (sep : Char) (cs : List Char) : List (List Char) :=
  (pieces sep cs).filter fun p => !p.isEmpty

theorem pieces_ne_nil (sep : Char) (cs : List Char) : pieces sep cs ≠ [] := by
  cases cs with
  | nil => simp [pieces]
  | cons c r =>
    rw [pieces]
    split
    · simp
    · split <;> simp

theorem pieces_of_not_mem {sep : Char} {cs : List Char} (h : sep ∉ cs) : pieces sep cs = [cs] := by
  induction cs with
  | nil => rfl
  | cons c cs ih =>
    rw [List.mem_cons, not_or] at h
    rw [pieces, if_neg (Ne.symm h.1), ih h.2]

/-- A separator ends the pieces before it. -/
theorem pieces_append_cons (sep : Char) (as bs : List Char) :
    pieces sep (as ++ sep :: bs) = pieces sep as ++ pieces sep bs := by
  induction as with
  | nil =>
    change (if sep = sep then _ else _) = _
    exact if_pos rfl
  | cons a as ih =>
    rw [List.cons_append, pieces, pieces, ih]
    split
    · rfl
    · cases has : pieces sep as with
      | nil => exact absurd has (pieces_ne_nil sep as)
      | cons p ps => rfl

/-- A piece has the characters of the text, and no separator. -/
theorem mem_of_mem_pieces {sep : Char} {cs p : List Char} (h : p ∈ pieces sep cs) :
    ∀ c ∈ p, c ∈ cs ∧ c ≠ sep := by
  induction cs generalizing p with
  | nil =>
    obtain rfl := List.mem_singleton.1 h
    exact fun c hc => absurd hc List.not_mem_nil
  | cons d r ih =>
    have hrest : ∀ q ∈ pieces sep r, ∀ c ∈ q, c ∈ d :: r ∧ c ≠ sep := fun q hq c hc =>
      (ih hq c hc).imp_left (List.mem_cons_of_mem d)
    rw [pieces] at h
    split at h
    · rcases List.mem_cons.1 h with rfl | h
      · exact fun c hc => absurd hc List.not_mem_nil
      · exact hrest p h
    · rename_i hd
      split at h
      · rename_i hr
        exact absurd hr (pieces_ne_nil sep r)
      · rename_i q qs hr
        rw [hr] at hrest
        rcases List.mem_cons.1 h with rfl | h
        · intro c hc
          rcases List.mem_cons.1 hc with rfl | hc
          · exact ⟨List.mem_cons_self, hd⟩
          · exact hrest q List.mem_cons_self c hc
        · exact hrest p (List.mem_cons_of_mem q h)

/-- The pieces with the separator between them are the text. -/
theorem intercalate_pieces (sep : Char) (cs : List Char) :
    List.intercalate [sep] (pieces sep cs) = cs := by
  induction cs with
  | nil => rfl
  | cons c r ih =>
    rw [pieces]
    cases hr : pieces sep r with
    | nil => exact absurd hr (pieces_ne_nil sep r)
    | cons p ps =>
      rw [hr] at ih
      split
      · rename_i hc
        rw [List.intercalate_cons_cons, ih, hc]
        rfl
      · cases ps with
        | nil =>
          rw [List.intercalate_singleton] at ih ⊢
          rw [ih]
        | cons q qs =>
          rw [List.intercalate_cons_cons] at ih ⊢
          rw [List.cons_append, List.cons_append, ih]

/-- Where texts are left out, the others stand in their order with fewer separators. -/
theorem intercalate_sublist {sep : List Char} {ps qs : List (List Char)} (h : List.Sublist ps qs) :
    List.Sublist (List.intercalate sep ps) (List.intercalate sep qs) := by
  induction h with
  | slnil => exact .refl _
  | @cons ps qs q h ih =>
    refine ih.trans ?_
    cases qs with
    | nil => exact List.nil_sublist _
    | cons r rs =>
      rw [List.intercalate_cons_cons]
      exact List.sublist_append_right _ _
  | @cons_cons ps qs q h ih =>
    cases qs with
    | nil =>
      obtain rfl := List.sublist_nil.1 h
      exact .refl _
    | cons r rs =>
      rw [List.intercalate_cons_cons]
      cases ps with
      | nil =>
        rw [List.intercalate_singleton, List.append_assoc]
        exact List.sublist_append_left _ _
      | cons p ps =>
        rw [List.intercalate_cons_cons]
        exact (List.Sublist.refl _).append ih

/-- What is joined has the characters of its parts and of what stands between them. -/
theorem mem_of_mem_intercalate {sep : List Char} {c : Char} {ps : List (List Char)}
    (h : c ∈ List.intercalate sep ps) : c ∈ sep ∨ ∃ p ∈ ps, c ∈ p := by
  induction ps with
  | nil => cases h
  | cons p ps ih =>
    cases ps with
    | nil =>
      rw [List.intercalate_singleton] at h
      exact .inr ⟨p, List.mem_cons_self, h⟩
    | cons q qs =>
      rw [List.intercalate_cons_cons] at h
      rcases List.mem_append.mp h with h | h
      · rcases List.mem_append.mp h with h | h
        · exact .inr ⟨p, List.mem_cons_self, h⟩
        · exact .inl h
      · exact (ih h).imp_right fun ⟨r, hr, hc⟩ => ⟨r, List.mem_cons_of_mem p hr, hc⟩

/-- The solid pieces with the separator between them fit into the text. -/
theorem intercalate_solidPieces_sublist (sep : Char) (cs : List Char) :
    List.Sublist (List.intercalate [sep] (solidPieces sep cs)) cs := by
  have h : List.Sublist (List.intercalate [sep] (solidPieces sep cs))
      (List.intercalate [sep] (pieces sep cs)) := intercalate_sublist List.filter_sublist
  rwa [intercalate_pieces] at h

/-! ### At the first occurrence -/

/-- The text before the first `sep` and the text after it. -/
def cutAt (sep : Char) : List Char → Option (List Char × List Char)
  | [] => none
  | c :: r => if c = sep then some ([], r) else (cutAt sep r).map fun (a, b) => (c :: a, b)

/-- A cut is at the first occurrence: its left part is free of the separator. -/
theorem cutAt_eq_some_iff {sep : Char} {cs a b : List Char} :
    cutAt sep cs = some (a, b) ↔ cs = a ++ sep :: b ∧ sep ∉ a := by
  induction cs generalizing a with
  | nil => simp [cutAt]
  | cons c r ih =>
    by_cases h : c = sep
    · subst h
      cases a with
      | nil => simp [cutAt, eq_comm]
      | cons x a => simp only [cutAt, if_true]; grind
    · cases a with
      | nil => simp [cutAt, h]
      | cons x a =>
        simp only [cutAt, h, if_false, Option.map_eq_some_iff, Prod.exists, Prod.mk.injEq,
          List.cons.injEq, List.cons_append, List.mem_cons, not_or]
        constructor
        · rintro ⟨a', b', hab, ⟨rfl, rfl⟩, rfl⟩
          exact ⟨⟨rfl, (ih.1 hab).1⟩, fun e => h e.symm, (ih.1 hab).2⟩
        · rintro ⟨⟨rfl, hr⟩, _, hn⟩
          exact ⟨a, b, ih.2 ⟨hr, hn⟩, ⟨rfl, rfl⟩, rfl⟩

/-- There is no cut exactly when the separator does not occur. -/
theorem cutAt_eq_none_iff {sep : Char} {cs : List Char} : cutAt sep cs = none ↔ sep ∉ cs := by
  induction cs with
  | nil => simp [cutAt]
  | cons c r ih =>
    by_cases h : c = sep
    · simp [cutAt, h]
    · simp [cutAt, h, ih, Ne.symm h]

/-- The text before the first occurrence of the text `sep` and the text after it. -/
def cutAtText (sep : List Char) : List Char → Option (List Char × List Char)
  | [] => if sep.isEmpty then some ([], []) else none
  | c :: r =>
    match sep.isPrefixOf? (c :: r) with
    | some rest => some ([], rest)
    | none => (cutAtText sep r).map fun (a, b) => (c :: a, b)

/-! ### At the last occurrence -/

/-- What follows the last `sep`, and the whole text where there is none. -/
def afterLast (sep : Char) : List Char → List Char
  | [] => []
  | c :: r => if sep ∈ r then afterLast sep r else if c = sep then r else c :: r

/-- Nothing of the separator is left after its last occurrence. -/
theorem not_mem_afterLast (sep : Char) (cs : List Char) : sep ∉ afterLast sep cs := by
  induction cs with
  | nil => simp [afterLast]
  | cons c r ih =>
    rw [afterLast]
    split
    · exact ih
    · split
      · assumption
      · simp_all [eq_comm]

theorem afterLast_of_not_mem {sep : Char} {cs : List Char} (h : sep ∉ cs) :
    afterLast sep cs = cs := by
  cases cs with
  | nil => rfl
  | cons c r =>
    simp only [List.mem_cons, not_or] at h
    rw [afterLast, if_neg h.2, if_neg (Ne.symm h.1)]

/-- What follows the last occurrence of a character in a text that ends without it. -/
theorem afterLast_append_cons {sep : Char} (cs : List Char) {rest : List Char} (h : sep ∉ rest) :
    afterLast sep (cs ++ sep :: rest) = rest := by
  induction cs with
  | nil => rw [List.nil_append, afterLast, if_neg h, if_pos rfl]
  | cons c r ih =>
    rw [List.cons_append, afterLast, if_pos (List.mem_append_right r List.mem_cons_self), ih]

/-- What follows the last separator ends the text. -/
theorem afterLast_suffix (sep : Char) (cs : List Char) : afterLast sep cs <:+ cs := by
  induction cs with
  | nil => exact List.suffix_refl []
  | cons c r ih =>
    rw [afterLast]
    split
    · exact ih.trans (List.suffix_cons c r)
    · split
      · exact List.suffix_cons c r
      · exact List.suffix_refl _

end FieldQuery.Text
