/-
**Clean keys.**

A key is purified in three steps: its groups are removed, what comes before its last colon is cut
off, and the blanks around the rest are trimmed.  Each step could undo what another one has done.
Where a group was removed, the characters around it become neighbours, and a group that is not
closed in time leaves a parenthesis behind.  But a parenthesis is left only where there is nothing
to close it with, so what is left has no groups; and the two steps that follow cut off an end of a
text, which brings no characters together.  So one pass is enough, for every key.

What a key says apart from the name of its field is lost in this way and nothing else is: an alias
may have colons in it, and a group may have colons and opening parentheses.

Main definitions:

* `Key.IsClean` — a key without colons, groups and outer blanks;
* `Key.groupsText` — groups in parentheses, one behind the other.

Main results:

* `Key.not_sublist_withoutGroups`, `Key.withoutGroups_eq_self_iff` — what is left has no groups, and
  a key without groups is left as it is;
* `Key.withoutGroups_append`, `Key.withoutGroups_group` — where groups are looked for;
* `Key.isClean_purify`, `Key.purify_of_isClean` — a purified key is clean, and a clean one is left
  as it is;
* `Key.purify_clean_exactly` — **the clean keys are those that purifying leaves alone, and a name is
  found behind an alias and before groups**.
-/

import FieldQuery.Selection.Key

set_option autoImplicit false

namespace FieldQuery

namespace Key

/-! ### Groups -/

mutual

/-- Nothing is added in removing groups. -/
theorem withoutGroups_sublist : ∀ cs : List Char, (withoutGroups cs).Sublist cs
  | [] => List.Sublist.refl []
  | c :: r => by
    rw [withoutGroups]
    split
    · exact (afterGroup_sublist r).cons c
    · exact (withoutGroups_sublist r).cons_cons c

theorem afterGroup_sublist : ∀ cs : List Char, (afterGroup cs).Sublist cs
  | [] => List.Sublist.refl []
  | c :: r => by
    rw [afterGroup]
    split
    · exact (withoutGroups_sublist r).cons c
    · exact (afterGroup_sublist r).cons c

end

/-- A text has a group exactly if its first character opens one or the rest has one. -/
theorem group_sublist_cons_iff (c : Char) (r : List Char) :
    ['(', ')'].Sublist (c :: r) ↔ c = '(' ∧ ')' ∈ r ∨ ['(', ')'].Sublist r := by
  rw [List.sublist_cons_iff, or_comm]
  refine or_congr_left ⟨?_, ?_⟩
  · rintro ⟨rest, hrest, hmem⟩
    obtain ⟨rfl, rfl⟩ := List.cons.inj hrest
    exact ⟨rfl, List.singleton_sublist.1 hmem⟩
  · rintro ⟨rfl, hmem⟩
    exact ⟨[')'], rfl, List.singleton_sublist.2 hmem⟩

mutual

/-- **What is left has no groups**, those included that removing could have brought together. -/
theorem not_sublist_withoutGroups : ∀ cs : List Char, ¬ ['(', ')'].Sublist (withoutGroups cs)
  | [] => by simp [withoutGroups]
  | c :: r => by
    rw [withoutGroups]
    split
    · exact not_sublist_afterGroup r
    · rename_i hopens
      rw [group_sublist_cons_iff, not_or]
      -- a parenthesis that is kept has nothing behind it that closes it
      exact ⟨fun h => hopens ⟨h.1, (withoutGroups_sublist r).subset h.2⟩,
        not_sublist_withoutGroups r⟩

theorem not_sublist_afterGroup : ∀ cs : List Char, ¬ ['(', ')'].Sublist (afterGroup cs)
  | [] => by simp [afterGroup]
  | c :: r => by
    rw [afterGroup]
    split
    · exact not_sublist_withoutGroups r
    · exact not_sublist_afterGroup r

end

/-- A key without groups is left as it is. -/
theorem withoutGroups_eq_self {cs : List Char} (h : ¬ ['(', ')'].Sublist cs) :
    withoutGroups cs = cs := by
  induction cs with
  | nil => rfl
  | cons c r ih =>
    rw [group_sublist_cons_iff, not_or] at h
    rw [withoutGroups, if_neg h.1, ih h.2]

theorem withoutGroups_eq_self_iff {cs : List Char} :
    withoutGroups cs = cs ↔ ¬ ['(', ')'].Sublist cs :=
  ⟨fun h => h ▸ not_sublist_withoutGroups cs, withoutGroups_eq_self⟩

/-- Before the first opening parenthesis there is nothing to remove. -/
theorem withoutGroups_append {cs : List Char} (h : '(' ∉ cs) (r : List Char) :
    withoutGroups (cs ++ r) = cs ++ withoutGroups r := by
  induction cs with
  | nil => rfl
  | cons c cs ih =>
    rw [List.mem_cons, not_or] at h
    rw [List.cons_append, withoutGroups, if_neg fun hopens => h.1 hopens.1.symm, ih h.2,
      List.cons_append]

theorem afterGroup_append {g : List Char} (h : ')' ∉ g) (r : List Char) :
    afterGroup (g ++ ')' :: r) = withoutGroups r := by
  induction g with
  | nil => rw [List.nil_append, afterGroup, if_pos rfl]
  | cons c g ih =>
    rw [List.mem_cons, not_or] at h
    rw [List.cons_append, afterGroup, if_neg (Ne.symm h.1), ih h.2]

/-- A group runs to the first parenthesis that closes it, whatever else is in it. -/
theorem withoutGroups_group {g : List Char} (h : ')' ∉ g) (r : List Char) :
    withoutGroups ('(' :: (g ++ ')' :: r)) = withoutGroups r := by
  rw [withoutGroups, if_pos ⟨rfl, List.mem_append_right g List.mem_cons_self⟩, afterGroup_append h]

/-- Groups in parentheses, one behind the other. -/
def groupsText (groups : List String) : String :=
  String.join (groups.map fun g => "(" ++ g ++ ")")

/-- Groups behind one another are all removed. -/
theorem withoutGroups_groupsText {groups : List String} (h : ∀ g ∈ groups, ')' ∉ g.toList) :
    withoutGroups (groupsText groups).toList = [] := by
  induction groups with
  | nil => rfl
  | cons g rest ih =>
    obtain ⟨hg, hrest⟩ := List.forall_mem_cons.1 h
    have hchars : (groupsText (g :: rest)).toList =
        '(' :: (g.toList ++ ')' :: (groupsText rest).toList) := by
      simp [groupsText, String.join_cons]
    rw [hchars, withoutGroups_group hg, ih hrest]

/-! ### Clean keys -/

/-- There is nothing in the key to purify: no colon, no opening parenthesis with a closing one
anywhere behind it, and no blank at either end. -/
structure IsClean (key : String) : Prop where
  no_colon : ':' ∉ key.toList
  no_group : ¬ ['(', ')'].Sublist key.toList
  no_blank_first : ∀ c ∈ key.toList.head?, Text.isBlank c = false
  no_blank_last : ∀ c ∈ key.toList.getLast?, Text.isBlank c = false

/-- A purified key is clean. -/
theorem isClean_purify (key : String) : IsClean (purify key) := by
  have htrim := Text.trim_eq_self_iff.1
    (Text.trim_trim (Text.afterLast ':' (withoutGroups key.toList)))
  refine ⟨not_mem_colon_purify key, ?_, ?_, ?_⟩
  · rw [purify, String.toList_ofList]
    intro hsub
    -- what is cut off at the ends brings nothing together
    have hinfix : purifyChars key.toList <:+: withoutGroups key.toList :=
      (Text.trim_infix _).trans (Text.afterLast_suffix ':' _).isInfix
    exact not_sublist_withoutGroups key.toList (hsub.trans hinfix.sublist)
  · rw [purify, String.toList_ofList]
    exact htrim.1
  · rw [purify, String.toList_ofList]
    exact htrim.2

/-- What is left of a key without its groups is its name, if the name is clean and ends the key or
stands behind a colon that ends an alias. -/
theorem purify_of_withoutGroups {key name : String} (hname : IsClean name)
    (h : withoutGroups key.toList = name.toList ∨
      ∃ cs, withoutGroups key.toList = cs ++ ':' :: name.toList) : purify key = name := by
  have hcut : Text.afterLast ':' (withoutGroups key.toList) = name.toList := by
    rcases h with h | ⟨cs, h⟩
    · rw [h, Text.afterLast_of_not_mem hname.no_colon]
    · rw [h, Text.afterLast_append_cons cs hname.no_colon]
  rw [purify, purifyChars, hcut,
    Text.trim_eq_self_iff.2 ⟨hname.no_blank_first, hname.no_blank_last⟩, String.ofList_toList]

/-- A clean key is left as it is. -/
theorem purify_of_isClean {key : String} (h : IsClean key) : purify key = key :=
  purify_of_withoutGroups h (.inl (withoutGroups_eq_self_iff.2 h.no_group))

theorem purify_eq_self_iff {key : String} : purify key = key ↔ IsClean key :=
  ⟨fun h => h ▸ isClean_purify key, purify_of_isClean⟩

/-- A name is found before groups. -/
theorem purify_groups {name : String} (hname : IsClean name) (hround : '(' ∉ name.toList)
    {groups : List String} (hgroups : ∀ g ∈ groups, ')' ∉ g.toList) :
    purify (name ++ groupsText groups) = name := by
  refine purify_of_withoutGroups hname (.inl ?_)
  rw [String.toList_append, withoutGroups_append hround, withoutGroups_groupsText hgroups,
    List.append_nil]

/-- A name is found behind an alias and before groups. -/
theorem purify_alias {alternative name : String} (halias : '(' ∉ alternative.toList)
    (hname : IsClean name) (hround : '(' ∉ name.toList) {groups : List String}
    (hgroups : ∀ g ∈ groups, ')' ∉ g.toList) :
    purify (alternative ++ ":" ++ name ++ groupsText groups) = name := by
  refine purify_of_withoutGroups hname (.inr ⟨alternative.toList, ?_⟩)
  have hopen : '(' ∉ alternative.toList ++ ':' :: name.toList := by
    simp [halias, hround]
  have hchars : (alternative ++ ":" ++ name ++ groupsText groups).toList =
      (alternative.toList ++ ':' :: name.toList) ++ (groupsText groups).toList := by
    simp
  rw [hchars, withoutGroups_append hopen, withoutGroups_groupsText hgroups, List.append_nil]

/-- **The clean keys are those that purifying leaves alone.**  Every purified key is clean, so that
purifying it again changes nothing; and a name without parentheses is found behind an alias, which
may have colons in it, and before groups, which may have colons and opening parentheses in them. -/
theorem purify_clean_exactly :
    (∀ key : String, IsClean (purify key) ∧ (purify key = key ↔ IsClean key) ∧
      purify (purify key) = purify key) ∧
    ∀ (alternative name : String) (groups : List String), '(' ∉ alternative.toList →
      IsClean name → '(' ∉ name.toList → (∀ g ∈ groups, ')' ∉ g.toList) →
        purify (alternative ++ ":" ++ name ++ groupsText groups) = name ∧
          purify (name ++ groupsText groups) = name := by
  constructor
  · intro key
    exact ⟨isClean_purify key, purify_eq_self_iff, purify_of_isClean (isClean_purify key)⟩
  · intro alternative name groups halias hname hround hgroups
    exact ⟨purify_alias halias hname hround hgroups, purify_groups hname hround hgroups⟩

/-- A name behind an alias that has a colon and a parenthesis in it, and before two groups, of which
one has parentheses and a colon in it. -/
theorem purify_supply :
    '(' ∉ "t1:x)".toList ∧ IsClean "max supply" ∧ '(' ∉ "max supply".toList ∧
      (∀ g ∈ ["limit: 1", "((at: 2"], ')' ∉ g.toList) ∧
      "t1:x)" ++ ":" ++ "max supply" ++ groupsText ["limit: 1", "((at: 2"] =
        "t1:x):max supply(limit: 1)(((at: 2)" ∧
      purify "t1:x):max supply(limit: 1)(((at: 2)" = "max supply" ∧
      purify "max supply(limit: 1)(((at: 2)" = "max supply" := by
  have halias : '(' ∉ "t1:x)".toList := by decide +kernel
  have hname : IsClean "max supply" := purify_eq_self_iff.1 (by decide +kernel)
  have hround : '(' ∉ "max supply".toList := by decide +kernel
  have hgroups : ∀ g ∈ ["limit: 1", "((at: 2"], ')' ∉ g.toList := by decide +kernel
  obtain ⟨hbehind, hbefore⟩ := purify_clean_exactly.2 _ _ _ halias hname hround hgroups
  exact ⟨halias, hname, hround, hgroups, by decide +kernel, hbehind, hbefore⟩

end Key

end FieldQuery
