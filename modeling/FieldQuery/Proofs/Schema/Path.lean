/-
**What the text of a position tells.**

A position may be any list of steps, but its text cannot tell all of them apart.  A bar is written
only where arguments begin behind a field, and the reader takes the first bar it finds for that
place, wherever it comes from, and passes over empty names.  So a position of arguments alone comes
back as one of fields, or without what stands before a bar in a name; a field behind an argument
comes back as an argument; and a dot in a name makes two steps of one.

What comes back is always a run of fields and then a run of arguments, whose names have none of
these faults.  The only such positions that do not come back themselves are those without a field,
and they do not because of their length: to be read as arguments they would need a bar in front, and
there is no room for it.

Main definitions:

* `Segment.IsLegible` — the name of a step can be told from what stands around it.

Main results:

* `SchemaPath.exists_runs` — what is read is a run of fields and a run of arguments, all legible;
* `SchemaPath.steps_displayChars` — a run of legible steps is read again;
* `SchemaPath.displayChars_steps_sublist` — the steps that are read fit into the text;
* `SchemaPath.ofText_display_iff` — **the positions that are read from their own text**.
-/

import FieldQuery.Proofs.Schema.Walk

set_option autoImplicit false

namespace FieldQuery

/-- The name of the step can be told from what stands around it: it is not empty, there is no dot in
it, and no bar if the step is a field. -/
structure Segment.IsLegible (s : Segment) : Prop where
  nonempty : s.name ≠ ""
  no_dot : '.' ∉ s.name.toList
  no_bar : s.kind = .field → '|' ∉ s.name.toList

instance (s : Segment) : Decidable s.IsLegible :=
  decidable_of_iff (s.name ≠ "" ∧ '.' ∉ s.name.toList ∧ (s.kind = .field → '|' ∉ s.name.toList))
    ⟨fun h => ⟨h.1, h.2.1, h.2.2⟩, fun h => ⟨h.nonempty, h.no_dot, h.no_bar⟩⟩

namespace SchemaPath

/-! ### What is read -/

/-- Steps that are read have names without dots, made of the characters of the text. -/
theorem of_mem_steps {kind : SegmentKind} {cs : List Char} {s : Segment} (h : s ∈ steps kind cs) :
    s.kind = kind ∧ s.name ≠ "" ∧ ∀ c ∈ s.name.toList, c ∈ cs ∧ c ≠ '.' := by
  obtain ⟨name, hname, rfl⟩ := List.mem_map.1 h
  obtain ⟨hpiece, hsolid⟩ := List.mem_filter.1 hname
  refine ⟨rfl, ?_, ?_⟩
  · intro hempty
    rw [← String.toList_inj, String.toList_ofList] at hempty
    rw [show name = [] from hempty] at hsolid
    exact absurd hsolid (by decide)
  · intro c hc
    rw [String.toList_ofList] at hc
    exact Text.mem_of_mem_pieces hpiece c hc

/-- The steps of a kind are those of a run. -/
theorem steps_field_eq (cs : List Char) :
    steps .field cs = fields ((steps .field cs).map Segment.name) := by
  simp [steps, fields]

theorem steps_argument_eq (cs : List Char) :
    steps .argument cs = arguments ((steps .argument cs).map Segment.name) := by
  simp [steps, arguments]

/-- Steps are legible, if fields are read where there is no bar. -/
theorem isLegible_of_mem_steps {kind : SegmentKind} {cs : List Char} {s : Segment}
    (h : s ∈ steps kind cs) (hbar : kind = .field → '|' ∉ cs) : s.IsLegible := by
  obtain ⟨hkind, hname, hchars⟩ := of_mem_steps h
  refine ⟨hname, fun hdot => (hchars '.' hdot).2 rfl, fun hfield hmem => ?_⟩
  exact hbar (hkind.symm.trans hfield) (hchars '|' hmem).1

/-- Without a bar there are only fields. -/
theorem ofChars_of_not_mem {cs : List Char} (h : '|' ∉ cs) : ofChars cs = steps .field cs := by
  rw [ofChars, Text.cutAt_eq_none_iff.2 h]

/-- The first bar stands between fields and arguments. -/
theorem ofChars_bar {before : List Char} (h : '|' ∉ before) (after : List Char) :
    ofChars (before ++ '|' :: after) = steps .field before ++ steps .argument after := by
  rw [ofChars, Text.cutAt_eq_some_iff.2 ⟨rfl, h⟩]

/-- **What is read** is a run of fields and a run of arguments, all of them legible. -/
theorem exists_runs (cs : List Char) :
    (∃ fs as, ofChars cs = fields fs ++ arguments as) ∧ ∀ s ∈ ofChars cs, s.IsLegible := by
  by_cases hbar : '|' ∈ cs
  · obtain ⟨before, after, rfl, hbefore⟩ := List.eq_append_cons_of_mem hbar
    rw [ofChars_bar hbefore]
    constructor
    · rw [steps_field_eq before, steps_argument_eq after]
      exact ⟨_, _, rfl⟩
    · intro s hs
      rcases List.mem_append.1 hs with hs | hs
      · exact isLegible_of_mem_steps hs fun _ => hbefore
      · exact isLegible_of_mem_steps hs nofun
  · rw [ofChars_of_not_mem hbar]
    constructor
    · rw [steps_field_eq cs]
      exact ⟨_, [], (List.append_nil _).symm⟩
    · intro s hs
      exact isLegible_of_mem_steps hs fun _ => hbar

/-! ### What is written -/

/-- A position with two steps at least is written as the first one, a separator, and the rest. -/
theorem displayChars_cons_cons (s t : Segment) (r : SchemaPath) :
    displayChars (s :: t :: r) =
      s.name.toList ++ separator s.kind t.kind :: displayChars (t :: r) := rfl

theorem separator_self (kind : SegmentKind) : separator kind kind = '.' := by
  cases kind <;> rfl

/-- Every character of a text is a separator or is in a name. -/
theorem not_mem_displayChars {c : Char} {kind : SegmentKind} (hdot : c ≠ '.') {p : SchemaPath}
    (hkind : ∀ s ∈ p, s.kind = kind) (h : ∀ s ∈ p, c ∉ s.name.toList) : c ∉ displayChars p := by
  induction p with
  | nil => exact List.not_mem_nil
  | cons s r ih =>
    obtain ⟨hs, hr⟩ := List.forall_mem_cons.1 h
    cases r with
    | nil => rwa [display_singleton]
    | cons t r =>
      have hseparator : separator s.kind t.kind = '.' := by
        rw [hkind s List.mem_cons_self, hkind t (by simp), separator_self]
      rw [displayChars_cons_cons, hseparator, List.mem_append, List.mem_cons, not_or, not_or]
      exact ⟨hs, hdot, ih (fun u hu => hkind u (List.mem_cons_of_mem s hu)) hr⟩

/-- Arguments behind fields have a bar in front. -/
theorem displayChars_append {p q : SchemaPath} (hp : p ≠ []) (hq : q ≠ [])
    (hfield : ∀ s ∈ p, s.kind = .field) (hargument : ∀ s ∈ q, s.kind = .argument) :
    displayChars (p ++ q) = displayChars p ++ '|' :: displayChars q := by
  induction p with
  | nil => exact absurd rfl hp
  | cons s r ih =>
    obtain ⟨hs, hr⟩ := List.forall_mem_cons.1 hfield
    cases r with
    | nil =>
      cases q with
      | nil => exact absurd rfl hq
      | cons t q =>
        have ht := hargument t List.mem_cons_self
        rw [List.singleton_append, displayChars_cons_cons, display_singleton, hs, ht]
        rfl
    | cons t r =>
      rw [List.cons_append, List.cons_append, displayChars_cons_cons, displayChars_cons_cons,
        ← List.cons_append, ih (by simp) hr, List.append_assoc, List.cons_append]

/-- **A run of legible steps** is read again. -/
theorem steps_displayChars {kind : SegmentKind} {p : SchemaPath} (hkind : ∀ s ∈ p, s.kind = kind)
    (h : ∀ s ∈ p, s.IsLegible) : steps kind (displayChars p) = p := by
  induction p with
  | nil => rfl
  | cons s r ih =>
    obtain ⟨hs, hr⟩ := List.forall_mem_cons.1 h
    obtain ⟨hskind, hrkind⟩ := List.forall_mem_cons.1 hkind
    have hsolid : s.name.toList ≠ [] := fun hempty =>
      hs.nonempty (String.toList_inj.1 hempty)
    have hstep : (⟨String.ofList s.name.toList, kind⟩ : Segment) = s := by
      rw [String.ofList_toList, ← hskind]
    have hpieces := Text.pieces_of_not_mem hs.no_dot
    cases r with
    | nil =>
      rw [display_singleton, steps, Text.solidPieces, hpieces,
        List.filter_cons_of_pos (by simpa using hsolid), List.filter_nil, List.map_singleton, hstep]
    | cons t r =>
      have hseparator : separator s.kind t.kind = '.' := by
        rw [hskind, hrkind t List.mem_cons_self, separator_self]
      have hrest := ih hrkind hr
      rw [steps, Text.solidPieces] at hrest
      rw [displayChars_cons_cons, hseparator, steps, Text.solidPieces, Text.pieces_append_cons,
        hpieces, List.singleton_append, List.filter_cons_of_pos (by simpa using hsolid),
        List.map_cons, hstep, hrest]

/-- Fields and arguments with legible names are read again, if there is a field. -/
theorem ofChars_displayChars {f : String} {fs as : List String}
    (h : ∀ s ∈ fields (f :: fs) ++ arguments as, s.IsLegible) :
    ofChars (displayChars (fields (f :: fs) ++ arguments as)) =
      fields (f :: fs) ++ arguments as := by
  obtain ⟨hfields, harguments⟩ := List.forall_mem_append.1 h
  have hfield : ∀ s ∈ fields (f :: fs), s.kind = .field := by simp [fields]
  have hargument : ∀ s ∈ arguments as, s.kind = .argument := by simp [arguments]
  have hbar : '|' ∉ displayChars (fields (f :: fs)) :=
    not_mem_displayChars (by decide) hfield fun s hs => (hfields s hs).no_bar (hfield s hs)
  cases as with
  | nil =>
    rw [arguments_nil, List.append_nil, ofChars_of_not_mem hbar,
      steps_displayChars hfield hfields]
  | cons a as =>
    rw [displayChars_append (by simp) (by simp) hfield hargument, ofChars_bar hbar,
      steps_displayChars hfield hfields, steps_displayChars hargument harguments]

/-! ### Room for a bar -/

/-- Steps of one kind are written with dots between them. -/
theorem displayChars_map (kind : SegmentKind) (names : List (List Char)) :
    displayChars (names.map fun name => ⟨String.ofList name, kind⟩) =
      List.intercalate ['.'] names := by
  induction names with
  | nil => rfl
  | cons a names ih =>
    cases names with
    | nil =>
      rw [List.map_singleton, display_singleton, List.intercalate_singleton, String.toList_ofList]
    | cons b names =>
      rw [List.map_cons] at ih
      rw [List.map_cons, List.map_cons, displayChars_cons_cons, ih, separator_self,
        List.intercalate_cons_cons, String.toList_ofList, List.append_assoc, List.singleton_append]

/-- The steps that are read fit into the text. -/
theorem displayChars_steps_sublist (kind : SegmentKind) (cs : List Char) :
    List.Sublist (displayChars (steps kind cs)) cs := by
  rw [steps, displayChars_map]
  exact Text.intercalate_solidPieces_sublist '.' cs

/-- What is read begins with a field, or else all of it was found behind a bar. -/
theorem eq_steps_of_ofChars {cs : List Char} {a : String} {r : SchemaPath}
    (h : ofChars cs = ⟨a, .argument⟩ :: r) :
    ∃ before after, cs = before ++ '|' :: after ∧ steps .argument after = ⟨a, .argument⟩ :: r := by
  have hfield : ∀ {cs rest}, steps .field cs ++ rest = ⟨a, .argument⟩ :: r →
      rest = ⟨a, .argument⟩ :: r := by
    intro cs rest h
    cases hsteps : steps .field cs with
    | nil => rwa [hsteps] at h
    | cons s _ =>
      have hkind := (of_mem_steps (hsteps ▸ List.mem_cons_self : s ∈ steps .field cs)).1
      rw [hsteps, List.cons_append] at h
      rw [(List.cons.inj h).1] at hkind
      cases hkind
  by_cases hbar : '|' ∈ cs
  · obtain ⟨before, after, rfl, hbefore⟩ := List.eq_append_cons_of_mem hbar
    rw [ofChars_bar hbefore] at h
    exact ⟨before, after, rfl, hfield h⟩
  · rw [ofChars_of_not_mem hbar, ← List.append_nil (steps .field cs)] at h
    cases hfield h

/-- A position without fields is not read from its own text. -/
theorem ofChars_displayChars_ne {a : String} {as : List String} :
    ofChars (displayChars (arguments (a :: as))) ≠ arguments (a :: as) := by
  intro h
  rw [arguments_cons] at h
  obtain ⟨before, after, htext, hsteps⟩ := eq_steps_of_ofChars h
  -- with the bar the text would be longer than itself
  have hlength := (displayChars_steps_sublist .argument after).length_le
  rw [hsteps, htext, List.length_append, List.length_cons] at hlength
  omega

/-- **The positions that are read from their own text** are the empty one and those that are a run
of fields, one at least, and then a run of arguments, with names that are not empty, have no dot in
them, and no bar where they are names of fields. -/
theorem ofText_display_iff {p : SchemaPath} :
    ofText p.display = p ↔
      p = [] ∨ ∃ f fs as, p = fields (f :: fs) ++ arguments as ∧ ∀ s ∈ p, s.IsLegible := by
  rw [ofText, display, String.toList_ofList]
  constructor
  · intro h
    obtain ⟨⟨fs, as, hruns⟩, hlegible⟩ := exists_runs (displayChars p)
    rw [h] at hruns hlegible
    cases fs with
    | cons f fs => exact .inr ⟨f, fs, as, hruns, hlegible⟩
    | nil =>
      cases as with
      | nil => exact .inl hruns
      | cons a as =>
        rw [hruns] at h
        exact absurd h ofChars_displayChars_ne
  · rintro (rfl | ⟨f, fs, as, rfl, hlegible⟩)
    · rfl
    · exact ofChars_displayChars hlegible

end SchemaPath

end FieldQuery
