/-
**Placeholders.**

A placeholder is the marker, a name, the separator and a type.  The separator is looked for from the
left, so it is the first one that counts, and a marked string is malformed in three ways: it has no
separator, nothing stands before the first one, or nothing stands after it.

For a name to be found again it is not enough that the separator does not stand in it.  The
separator begins with the two colons it ends with, so a name may end with all of it but its last
colons, and borrow these from the separator that is written behind the name.  The first separator
then begins inside the name, and the string stands for another variable.

Main definitions:

* `Text.IsFirstCut` — the parts of a text around the first occurrence of a separator;
* `Text.Overhang` — what remains of a separator whose end lies over another one;
* `Variable.IsMalformed` — a marked string that stands for no variable;
* `Variable.IsClear` — a variable whose name does not run into the separator.

Main results:

* `Text.cutAtText_eq_some_iff`, `Text.cutAtText_eq_none_iff` — what cutting at a separator finds;
* `Text.isFirstCut_append_iff` — where a separator that was written is the first one;
* `Variable.ofText_eq_error_iff` — which strings are malformed, and what is said about them;
* `Variable.ofText_reads_placeholders` — **exactly the placeholders of clear variables** are read as
  variables, and each as its own.
-/

import Mathlib.Data.List.Basic
import FieldQuery.Query.Variable

set_option autoImplicit false

namespace FieldQuery

namespace Text

/-! ### The first occurrence of a separator -/

/-- The text is `before`, the separator and `after`, and the separator starts nowhere further to
the left. -/
def IsFirstCut (sep cs before after : List Char) : Prop :=
  cs = before ++ sep ++ after ∧ ∀ a b, cs = a ++ sep ++ b → before.length ≤ a.length

theorem cutAtText_cons (sep : List Char) (c : Char) (r : List Char) :
    cutAtText sep (c :: r) =
      match sep.isPrefixOf? (c :: r) with
      | some rest => some ([], rest)
      | none => (cutAtText sep r).map fun p => (c :: p.1, p.2) := rfl

theorem isPrefixOf?_eq_none_iff {sep cs : List Char} :
    sep.isPrefixOf? cs = none ↔ ∀ b, cs ≠ sep ++ b := by
  rw [Option.eq_none_iff_forall_ne_some]
  exact forall_congr' fun b => not_congr (List.isPrefixOf?_eq_some_iff_append_eq.trans eq_comm)

/-- A cut is at the first occurrence of the separator. -/
theorem isFirstCut_of_cutAtText {sep cs a b : List Char} (h : cutAtText sep cs = some (a, b)) :
    IsFirstCut sep cs a b := by
  induction cs generalizing a with
  | nil =>
    rw [cutAtText] at h
    split at h
    · obtain ⟨rfl, rfl⟩ := Prod.mk.inj (Option.some.inj h)
      simp_all [IsFirstCut]
    · exact absurd h (by simp)
  | cons c r ih =>
    rw [cutAtText_cons] at h
    cases hp : sep.isPrefixOf? (c :: r) with
    | some rest =>
      rw [hp] at h
      obtain ⟨rfl, rfl⟩ := Prod.mk.inj (Option.some.inj h)
      exact ⟨(List.isPrefixOf?_eq_some_iff_append_eq.1 hp).symm, by simp⟩
    | none =>
      rw [hp] at h
      obtain ⟨⟨a', b'⟩, hcut, he⟩ := Option.map_eq_some_iff.1 h
      obtain ⟨rfl, rfl⟩ := Prod.mk.inj he
      obtain ⟨hr, hfirst⟩ := ih hcut
      refine ⟨by rw [hr]; rfl, fun x y hxy => ?_⟩
      cases x with
      | nil => exact absurd hxy (isPrefixOf?_eq_none_iff.1 hp y)
      | cons z x =>
        have hle := hfirst x y (List.cons.inj hxy).2
        simpa using hle

/-- There is no cut exactly where the separator does not occur. -/
theorem cutAtText_eq_none_iff {sep cs : List Char} :
    cutAtText sep cs = none ↔ ¬ sep <:+: cs := by
  induction cs with
  | nil =>
    rw [cutAtText]
    cases sep <;> simp
  | cons c r ih =>
    rw [cutAtText_cons, List.infix_cons_iff, not_or, ← ih]
    cases hp : sep.isPrefixOf? (c :: r) with
    | some rest =>
      have hstart : sep <+: c :: r := ⟨rest, List.isPrefixOf?_eq_some_iff_append_eq.1 hp⟩
      simp [hstart]
    | none =>
      have hstart : ¬ sep <+: c :: r := fun ⟨b, hb⟩ => isPrefixOf?_eq_none_iff.1 hp b hb.symm
      simp [hstart]

/-- The parts around the first occurrence are unique. -/
theorem IsFirstCut.unique {sep cs a b a' b' : List Char} (h : IsFirstCut sep cs a b)
    (h' : IsFirstCut sep cs a' b') : a = a' ∧ b = b' := by
  -- each of the two starts no further to the right than the other
  have hlen : a.length = a'.length :=
    Nat.le_antisymm (h.2 a' b' h'.1) (h'.2 a b h.1)
  have heq : a ++ (sep ++ b) = a' ++ (sep ++ b') := by
    rw [← List.append_assoc, ← List.append_assoc, ← h.1, ← h'.1]
  obtain ⟨ha, hb⟩ := List.append_inj heq hlen
  exact ⟨ha, List.append_cancel_left hb⟩

/-- **Cutting at a separator** finds the first occurrence, if there is one. -/
theorem cutAtText_eq_some_iff {sep cs a b : List Char} :
    cutAtText sep cs = some (a, b) ↔ IsFirstCut sep cs a b := by
  refine ⟨isFirstCut_of_cutAtText, fun h => ?_⟩
  cases hc : cutAtText sep cs with
  | none => exact absurd ⟨a, b, h.1.symm⟩ (cutAtText_eq_none_iff.1 hc)
  | some p =>
    obtain ⟨rfl, rfl⟩ := (isFirstCut_of_cutAtText (a := p.1) (b := p.2) hc).unique h
    rfl

/-! ### A separator that was written -/

/-- Some characters of a separator, but not all, such that a second separator can begin with the
rest. -/
def Overhang (sep front : List Char) : Prop :=
  front ≠ [] ∧ ∃ back, back ≠ [] ∧ sep = front ++ back ∧ back <+: sep

/-- A separator begins earlier than one that was written exactly if it stands before it, or hangs
over into it. -/
theorem exists_earlier_iff {sep : List Char} (hsep : sep ≠ []) (before after : List Char) :
    (∃ a b, before ++ sep ++ after = a ++ sep ++ b ∧ a.length < before.length) ↔
      sep <:+: before ∨ ∃ front, Overhang sep front ∧ front <:+ before := by
  constructor
  · rintro ⟨a, b, heq, hlt⟩
    rw [List.append_assoc, List.append_assoc] at heq
    have ha : a <+: before :=
      List.prefix_of_prefix_length_le ⟨sep ++ b, heq.symm⟩ (List.prefix_append _ _)
        (Nat.le_of_lt hlt)
    obtain ⟨front, rfl⟩ := ha
    have hfront : front ≠ [] := by
      rintro rfl
      simp at hlt
    rw [List.append_assoc, List.append_cancel_left_eq] at heq
    -- the earlier separator ends before the later one begins, or inside it
    rcases List.append_eq_append_iff.1 heq with ⟨back, hback, hrest⟩ | ⟨c, hc, -⟩
    · by_cases hnil : back = []
      · rw [hnil, List.append_nil] at hback
        exact .inl ⟨a, [], by rw [hback, List.append_nil]⟩
      · have hpre : back <+: sep := by
          refine List.prefix_of_prefix_length_le ⟨b, hrest.symm⟩ (List.prefix_append _ _) ?_
          rw [hback, List.length_append]
          omega
        exact .inr ⟨front, ⟨hfront, back, hnil, hback, hpre⟩, List.suffix_append a front⟩
    · exact .inl ⟨a, c, by rw [hc, List.append_assoc]⟩
  · rintro (⟨a, b, rfl⟩ | ⟨front, ⟨hfront, back, -, hback, ⟨rest, hrest⟩⟩, ⟨a, rfl⟩⟩)
    · refine ⟨a, b ++ (sep ++ after), by simp only [List.append_assoc], ?_⟩
      have hpos := List.length_pos_iff.2 hsep
      simp only [List.length_append]
      omega
    · refine ⟨a, rest ++ after, ?_, ?_⟩
      · calc a ++ front ++ sep ++ after = a ++ front ++ (back ++ rest) ++ after := by rw [hrest]
          _ = a ++ (front ++ back) ++ (rest ++ after) := by simp only [List.append_assoc]
          _ = a ++ sep ++ (rest ++ after) := by rw [← hback]
      · have hpos := List.length_pos_iff.2 hfront
        rw [List.length_append]
        omega

/-- **A separator that was written** is the first one if it does not stand in what is before it, and
does not hang over from there. -/
theorem isFirstCut_append_iff {sep : List Char} (hsep : sep ≠ []) (before after : List Char) :
    IsFirstCut sep (before ++ sep ++ after) before after ↔
      ¬ sep <:+: before ∧ ∀ front, Overhang sep front → ¬ front <:+ before := by
  have hiff := not_congr (exists_earlier_iff hsep before after)
  simp only [not_or, not_exists, not_and, Nat.not_lt] at hiff
  exact (and_iff_right rfl).trans hiff

end Text

namespace Variable

/-! ### Marked strings -/

/-- A string with the marker and without a separator, or with nothing before or after the first
one. -/
def IsMalformed (text : String) : Prop :=
  ∃ body, text.toList = marker ++ body ∧
    (¬ typeMark <:+: body ∨
      ∃ name type, Text.IsFirstCut typeMark body name type ∧ (name = [] ∨ type = []))

/-- **Which strings are malformed**, and what is said about them. -/
theorem ofText_eq_error_iff {text : String} {e : VariableError} :
    ofText text = .error e ↔ IsMalformed text ∧ e = .malformed text := by
  unfold ofText IsMalformed
  cases hm : marker.isPrefixOf? text.toList with
  | none =>
    have hno : ∀ body, text.toList ≠ marker ++ body := Text.isPrefixOf?_eq_none_iff.1 hm
    simp [hno]
  | some body =>
    have hbody : text.toList = marker ++ body :=
      (List.isPrefixOf?_eq_some_iff_append_eq.1 hm).symm
    have hsame : ∀ b, text.toList = marker ++ b ↔ b = body := by
      intro b
      rw [hbody, List.append_cancel_left_eq, eq_comm]
    simp only [hsame, exists_eq_left]
    cases hc : Text.cutAtText typeMark body with
    | none =>
      have hnone := Text.cutAtText_eq_none_iff.1 hc
      simp [hnone, eq_comm]
    | some p =>
      obtain ⟨name, type⟩ := p
      have hcut := Text.cutAtText_eq_some_iff.1 hc
      have hstands : typeMark <:+: body := ⟨name, type, hcut.1.symm⟩
      have hunique : (∃ n t, Text.IsFirstCut typeMark body n t ∧ (n = [] ∨ t = [])) ↔
          name = [] ∨ type = [] := by
        constructor
        · rintro ⟨n, t, hnt, h⟩
          obtain ⟨rfl, rfl⟩ := hnt.unique hcut
          exact h
        · exact fun h => ⟨name, type, hcut, h⟩
      simp only [hstands, not_true_eq_false, false_or, hunique, Bool.or_eq_true,
        List.isEmpty_iff]
      split <;> simp_all [eq_comm]

/-- An ordinary string has no marker. -/
theorem ofText_eq_none_iff {text : String} :
    ofText text = .ok none ↔ ¬ marker <+: text.toList := by
  constructor
  · rintro h ⟨body, hbody⟩
    have hm : marker.isPrefixOf? text.toList = some body :=
      List.isPrefixOf?_eq_some_iff_append_eq.2 hbody
    rw [ofText, hm] at h
    dsimp only at h
    split at h
    · cases h
    · split at h <;> cases h
  · intro h
    exact ofText_of_not_marked (Text.isPrefixOf?_eq_none_iff.2 fun b hb => h ⟨b, hb.symm⟩)

/-- A string stands for a variable whose name and type it has around the first separator. -/
theorem ofText_eq_some_iff {text : String} {v : Variable} :
    ofText text = .ok (some v) ↔ ∃ body, text.toList = marker ++ body ∧
      Text.IsFirstCut typeMark body v.name.toList v.type.toList ∧ v.name ≠ "" ∧ v.type ≠ "" := by
  constructor
  · intro h
    unfold ofText at h
    split at h
    · cases h
    rename_i body hm
    refine ⟨body, (List.isPrefixOf?_eq_some_iff_append_eq.1 hm).symm, ?_⟩
    split at h
    · cases h
    rename_i name type hcut
    split at h
    · cases h
    rename_i hparts
    simp only [Bool.or_eq_true, List.isEmpty_iff, not_or] at hparts
    obtain rfl := Option.some.inj (Except.ok.inj h)
    simp only [String.toList_ofList]
    refine ⟨Text.cutAtText_eq_some_iff.1 hcut, ?_, ?_⟩
    · exact fun e => hparts.1 (String.ofList_eq_empty_iff.1 e)
    · exact fun e => hparts.2 (String.ofList_eq_empty_iff.1 e)
  · rintro ⟨body, hbody, hcut, hname, htype⟩
    have hm : marker.isPrefixOf? text.toList = some body :=
      List.isPrefixOf?_eq_some_iff_append_eq.2 hbody.symm
    have hparts : ¬ (v.name.toList.isEmpty || v.type.toList.isEmpty) = true := by
      simpa [String.toList_eq_nil_iff] using ⟨hname, htype⟩
    rw [ofText, hm]
    dsimp only
    rw [Text.cutAtText_eq_some_iff.2 hcut]
    dsimp only
    rw [if_neg hparts, String.ofList_toList, String.ofList_toList]

/-! ### Names that run into the separator -/

/-- The separator begins with its last colon and with its last two, and repeats itself in no other
way. -/
theorem overhang_typeMark_iff {front : List Char} : Text.Overhang typeMark front ↔
    front = [':', ':', '$', 't', 'y', 'p', 'e'] ∨
      front = [':', ':', '$', 't', 'y', 'p', 'e', ':'] := by
  have hcheck : ∀ n < 9, 0 < n → typeMark.drop n <+: typeMark → n = 7 ∨ n = 8 := by decide
  constructor
  · rintro ⟨hfront, back, hback, hmark, hpre⟩
    have hlength : front.length + back.length = 9 := by
      rw [← List.length_append, ← hmark]
      rfl
    have htake : typeMark.take front.length = front := by rw [hmark, List.take_left]
    have hdrop : typeMark.drop front.length = back := by rw [hmark, List.drop_left]
    have hfrontPos := List.length_pos_iff.2 hfront
    have hbackPos := List.length_pos_iff.2 hback
    rcases hcheck front.length (by omega) hfrontPos (hdrop ▸ hpre) with h | h
    · exact .inl (by rw [← htake, h]; rfl)
    · exact .inr (by rw [← htake, h]; rfl)
  · rintro (rfl | rfl)
    · exact ⟨by decide, [':', ':'], by decide, rfl, by decide⟩
    · exact ⟨by decide, [':'], by decide, rfl, by decide⟩

/-- Name and type are there, and no separator stands in the name, nor begins in it to end in the one
behind it. -/
structure IsClear (v : Variable) : Prop where
  name : v.name ≠ ""
  type : v.type ≠ ""
  apart : ¬ typeMark <:+: v.name.toList
  two_colons : ¬ [':', ':', '$', 't', 'y', 'p', 'e'] <:+ v.name.toList
  one_colon : ¬ [':', ':', '$', 't', 'y', 'p', 'e', ':'] <:+ v.name.toList

/-- The separator of a placeholder is the first one exactly if the name does not run into it. -/
theorem isClear_iff {v : Variable} : v.IsClear ↔
    Text.IsFirstCut typeMark (v.name.toList ++ typeMark ++ v.type.toList) v.name.toList
      v.type.toList ∧ v.name ≠ "" ∧ v.type ≠ "" := by
  rw [Text.isFirstCut_append_iff (by decide)]
  simp only [overhang_typeMark_iff, forall_eq_or_imp, forall_eq]
  constructor
  · rintro ⟨hname, htype, hapart, htwo, hone⟩
    exact ⟨⟨hapart, htwo, hone⟩, hname, htype⟩
  · rintro ⟨⟨hapart, htwo, hone⟩, hname, htype⟩
    exact ⟨hname, htype, hapart, htwo, hone⟩

theorem toList_placeholder (v : Variable) :
    v.placeholder.toList = marker ++ (v.name.toList ++ typeMark ++ v.type.toList) := by
  rw [placeholder, String.toList_ofList]
  simp only [List.append_assoc]

/-- The placeholder of a clear variable stands for the variable, and other placeholders do not. -/
theorem ofText_placeholder_iff {v : Variable} :
    ofText v.placeholder = .ok (some v) ↔ v.IsClear := by
  rw [ofText_eq_some_iff, isClear_iff, toList_placeholder]
  constructor
  · rintro ⟨body, hbody, hcut⟩
    rwa [List.append_cancel_left hbody]
  · intro h
    exact ⟨_, rfl, h⟩

/-- A string that stands for a variable is the placeholder of the variable. -/
theorem placeholder_of_ofText {text : String} {v : Variable} (h : ofText text = .ok (some v)) :
    v.placeholder = text := by
  obtain ⟨body, hbody, hcut, -⟩ := ofText_eq_some_iff.1 h
  rw [← String.toList_inj, toList_placeholder, hbody, ← hcut.1]

/-- **Exactly the placeholders of clear variables** stand for variables, and each for its own; the
strings without the marker are ordinary ones; and all others are malformed, for want of a separator
or of something on either side of the first one, and are quoted whole in the error. -/
theorem ofText_reads_placeholders (v : Variable) (text : String) :
    (ofText v.placeholder = .ok (some v) ↔ v.IsClear) ∧
    (ofText text = .ok none ↔ ¬ marker <+: text.toList) ∧
    (ofText text = .ok (some v) ↔ text = v.placeholder ∧ v.IsClear) ∧
    (∀ e, ofText text = .error e ↔ IsMalformed text ∧ e = .malformed text) := by
  refine ⟨ofText_placeholder_iff, ofText_eq_none_iff, ⟨fun h => ?_, ?_⟩,
    fun e => ofText_eq_error_iff⟩
  · have htext := placeholder_of_ofText h
    rw [← htext] at h
    exact ⟨htext.symm, ofText_placeholder_iff.1 h⟩
  · rintro ⟨rfl, h⟩
    exact ofText_placeholder_iff.2 h

/-- A name that ends with the separator but for a colon takes it from the separator behind it: what
is read is a shorter name and another type. -/
example : ofText (placeholder ⟨"n::$type:", "Int"⟩) = .ok (some ⟨"n", ":$type::Int"⟩) := by
  decide +kernel

end Variable

end FieldQuery
