/-
**The variables of a query.**

The table of a compiled query is fixed by the demands of its body alone: the marked strings that
were reached, in the order in which they were reached.  This module says what the table holds, and
which demand of several ends the writing when not all can be met: the first at fault, where a
marked string is at fault when it is malformed or repeats a name with another type, and a call of
an encoder when the encoder fails.

The invariant that carries the induction is `Demand.Declares`: the table holds the type of the
first use of every name used so far, and its keys are those names in the order of their first use.

Main definitions:

* `Demand.marks`, `Demand.uses` — the marked strings among demands, and the variables they stand
  for;
* `Demand.Fault` — a demand that cannot be met after others, and why;
* `Demand.Clean` — demands of which none is at fault;
* `Demand.Declares` — a table declares the variables that demands use.

Main results:

* `Demand.replay_eq_ok`, `Demand.replay_eq_error_iff` — meeting several demands;
* `SelectionSet.compile_collects` — **a query declares the variables of its body**, or fails at the
  first fault.
-/

import FieldQuery.Proofs.Query.Demand
import FieldQuery.Proofs.Query.Placeholder

set_option autoImplicit false

namespace FieldQuery

namespace Demand

variable {coders : Coders}

/-! ### Uses of variables -/

/-- The marked string of a demand. -/
def mark? : Demand → Option String
  | marked text => some text
  | encoding _ _ => none

/-- The variable that a demand uses. -/
def use? (d : Demand) : Option Variable :=
  d.mark?.bind fun text =>
    match Variable.ofText text with
    | .ok x => x
    | .error _ => none

/-- The marked strings among demands. -/
def marks (ds : List Demand) : List String := ds.filterMap mark?

/-- The variables that demands use. -/
def uses (ds : List Demand) : List Variable := ds.filterMap use?

/-- The type that the first use of a name gives to it. -/
def firstType? (ds : List Demand) (name : String) : Option String :=
  ((uses ds).find? fun x => x.name = name).map Variable.type

/-- The names of variables, each at its first use. -/
def firstNames (ds : List Demand) : List String := ((uses ds).map Variable.name).eraseDups

/-! ### Faults -/

/-- A demand cannot be met after the demands `before`, and the error says why. -/
inductive Fault (coders : Coders) (before : List Demand) : Demand → QueryError → Prop
  | malformed {text : String} :
      Variable.IsMalformed text →
      Fault coders before (marked text) (.variable (.malformed text))
  | conflict {text : String} {x : Variable} {first : String} :
      Variable.ofText text = .ok (some x) → firstType? before x.name = some first →
      first ≠ x.type →
      Fault coders before (marked text) (.variable (.typeConflict x.name first x.type))
  | encoder {scalar : String} {v : Json} {f : Json → Except CoderError String} {e : CoderError} :
      coders.encoder? scalar = some f → f v = .error e →
      Fault coders before (encoding scalar v) (.coder e)

/-- Of the demands that follow the demands `before`, none is at fault. -/
def CleanAfter (coders : Coders) (before ds : List Demand) : Prop :=
  ∀ pre d post e, ds = pre ++ d :: post → ¬ d.Fault coders (before ++ pre) e

/-- None of the demands is at fault. -/
def Clean (coders : Coders) (ds : List Demand) : Prop := CleanAfter coders [] ds

/-! ### Tables -/

/-- The table declares the variables that demands use: every name with the type of its first use,
in the order of the first uses. -/
structure Declares (t : VariableTable) (ds : List Demand) : Prop where
  get? : ∀ name, t.get? name = firstType? ds name
  keys : t.keys = firstNames ds

theorem declares_empty : Declares Dictionary.empty [] := ⟨fun _ => rfl, rfl⟩

theorem uses_append (ds es : List Demand) : uses (ds ++ es) = uses ds ++ uses es :=
  List.filterMap_append

/-- A demand that uses no variable leaves what is declared. -/
theorem Declares.append_of_no_use {t : VariableTable} {ds : List Demand} {d : Demand}
    (h : Declares t ds) (hd : d.use? = none) : Declares t (ds ++ [d]) := by
  have huses : uses (ds ++ [d]) = uses ds := by simp [uses, hd]
  exact ⟨fun name => by rw [h.get?, firstType?, firstType?, huses],
    by rw [h.keys, firstNames, firstNames, huses]⟩

theorem use?_marked_of_ok {text : String} {x : Variable}
    (h : Variable.ofText text = .ok (some x)) : (marked text).use? = some x := by
  simp [use?, mark?, h]

theorem firstType?_append (ds es : List Demand) (name : String) :
    firstType? (ds ++ es) name = (firstType? ds name).or (firstType? es name) := by
  rw [firstType?, uses_append, List.find?_append, firstType?, firstType?]
  cases (uses ds).find? fun y => y.name = name <;> rfl

theorem firstType?_cons_use {d : Demand} {x : Variable} (hd : d.use? = some x) (ds : List Demand)
    (name : String) :
    firstType? (d :: ds) name = if x.name = name then some x.type else firstType? ds name := by
  by_cases hx : x.name = name <;> simp [firstType?, uses, hd, hx]

theorem eraseDups_append_singleton (as : List String) (a : String) :
    (as ++ [a]).eraseDups = if a ∈ as then as.eraseDups else as.eraseDups ++ [a] := by
  rw [List.eraseDups_append]
  by_cases h : a ∈ as <;> simp [List.removeAll, List.eraseDups_cons, h]

theorem firstNames_append_use {ds : List Demand} {d : Demand} {x : Variable}
    (hd : d.use? = some x) :
    firstNames (ds ++ [d]) =
      if x.name ∈ (uses ds).map Variable.name then firstNames ds else firstNames ds ++ [x.name] := by
  have huse : uses [d] = [x] := by simp [uses, hd]
  rw [firstNames, uses_append, huse, List.map_append, List.map_singleton,
    eraseDups_append_singleton, firstNames]

theorem firstType?_eq_none_iff {ds : List Demand} {name : String} :
    firstType? ds name = none ↔ name ∉ (uses ds).map Variable.name := by
  simp [firstType?]

/-- A new name is declared at the end. -/
theorem Declares.append_new {t : VariableTable} {ds : List Demand} {d : Demand} {x : Variable}
    (h : Declares t ds) (hd : d.use? = some x) (hnew : t.get? x.name = none) :
    Declares (t.insert x.name x.type) (ds ++ [d]) := by
  have hfirst : firstType? ds x.name = none := by rw [← h.get?, hnew]
  have hnotin := firstType?_eq_none_iff.1 hfirst
  constructor
  · intro name
    rw [Dictionary.get?_insert, h.get?, firstType?_append, firstType?_cons_use hd]
    split
    · rename_i hname
      rw [← hname, hfirst, Option.none_or]
    · exact Option.or_none.symm
  · have hkeys : x.name ∉ t.entries.keys := by
      show x.name ∉ t.keys
      rw [h.keys, firstNames, List.mem_eraseDups]
      exact hnotin
    rw [Dictionary.keys, Dictionary.entries_insert, Entries.keys_put, firstNames_append_use hd,
      if_neg hkeys, if_neg hnotin, ← h.keys]
    rfl

/-- A name that is used again with its type stays declared as it is. -/
theorem Declares.append_known {t : VariableTable} {ds : List Demand} {d : Demand} {x : Variable}
    (h : Declares t ds) (hd : d.use? = some x) (hknown : t.get? x.name = some x.type) :
    Declares t (ds ++ [d]) := by
  have hfirst : firstType? ds x.name = some x.type := by rw [← h.get?, hknown]
  have hin : x.name ∈ (uses ds).map Variable.name := by
    by_contra hnot
    rw [firstType?_eq_none_iff.2 hnot] at hfirst
    exact absurd hfirst (by simp)
  constructor
  · intro name
    rw [h.get?, firstType?_append, firstType?_cons_use hd]
    split
    · rename_i hname
      rw [← hname, hfirst, Option.some_or]
    · exact Option.or_none.symm
  · rw [h.keys, firstNames_append_use hd, if_pos hin]

/-! ### Meeting demands -/

/-- A demand has one fault at most. -/
theorem Fault.unique {before : List Demand} {d : Demand} {e e' : QueryError}
    (h : d.Fault coders before e) (h' : d.Fault coders before e') : e = e' := by
  cases h with
  | malformed hm =>
    have hbad := Variable.ofText_eq_error_iff.2 ⟨hm, rfl⟩
    cases h' with
    | malformed _ => rfl
    | conflict hx _ _ => simp [hbad] at hx
  | conflict hx hfirst _ =>
    cases h' with
    | malformed hm => simp [Variable.ofText_eq_error_iff.2 ⟨hm, rfl⟩] at hx
    | conflict hx' hfirst' _ => simp_all
  | encoder hf hv =>
    cases h' with
    | encoder hf' hv' => simp_all

/-- **One demand** is met, and then the table declares its use too, or it is at fault. -/
theorem Declares.meet (coders : Coders) {t : VariableTable} {before : List Demand}
    (h : Declares t before) (d : Demand) :
    (∃ t', d.meet coders t = .ok t' ∧ Declares t' (before ++ [d]) ∧
        ∀ e, ¬ d.Fault coders before e) ∨
      ∃ e, d.meet coders t = .error e ∧ d.Fault coders before e := by
  cases d with
  | encoding scalar v =>
    cases hf : coders.encoder? scalar with
    | none =>
      refine .inl ⟨t, ?_, h.append_of_no_use rfl, ?_⟩
      · simp [Demand.meet, Coders.encode?, hf, Except.mapError, Except.map]
      · rintro e ⟨⟩
        simp_all
    | some f =>
      cases hv : f v with
      | error e =>
        refine .inr ⟨.coder e, ?_, .encoder hf hv⟩
        simp [Demand.meet, Coders.encode?, hf, hv, Except.mapError, Except.map]
      | ok text =>
        refine .inl ⟨t, ?_, h.append_of_no_use rfl, ?_⟩
        · simp [Demand.meet, Coders.encode?, hf, hv, Except.mapError, Except.map]
        · rintro e ⟨⟩
          simp_all
  | marked text =>
    cases hx : Variable.ofText text with
    | error e =>
      obtain ⟨hbad, rfl⟩ := Variable.ofText_eq_error_iff.1 hx
      exact .inr ⟨_, by simp [Demand.meet, hx], .malformed hbad⟩
    | ok found =>
      have hgood : ¬ Variable.IsMalformed text := fun hbad => by
        simp [Variable.ofText_eq_error_iff.2 ⟨hbad, rfl⟩] at hx
      cases found with
      | none =>
        refine .inl ⟨t, by simp [Demand.meet, hx], h.append_of_no_use ?_, ?_⟩
        · simp [use?, mark?, hx]
        · rintro e ⟨⟩ <;> simp_all
      | some x =>
        have huse := use?_marked_of_ok hx
        cases hget : t.get? x.name with
        | none =>
          refine .inl ⟨_, ?_, h.append_new huse hget, ?_⟩
          · simp [Demand.meet, hx, VariableTable.declare_new hget, Except.mapError]
          · have hfirst : firstType? before x.name = none := by rw [← h.get?, hget]
            rintro e ⟨⟩ <;> simp_all
        | some first =>
          have hfirst : firstType? before x.name = some first := by rw [← h.get?, hget]
          by_cases htype : first = x.type
          · subst htype
            refine .inl ⟨t, ?_, h.append_known huse hget, ?_⟩
            · simp [Demand.meet, hx, VariableTable.declare, hget, Except.mapError]
            · rintro e ⟨⟩ <;> simp_all
          · refine .inr ⟨_, ?_, .conflict hx hfirst htype⟩
            simp [Demand.meet, hx, VariableTable.declare, hget, htype, Except.mapError]

/-- What is clean after a demand without fault is clean together with it. -/
theorem CleanAfter.cons {before ds : List Demand} {d : Demand}
    (h : CleanAfter coders (before ++ [d]) ds) (hd : ∀ e, ¬ d.Fault coders before e) :
    CleanAfter coders before (d :: ds) := by
  intro pre x post e hsplit
  cases pre with
  | nil =>
    obtain ⟨rfl, -⟩ := List.cons.inj hsplit
    simpa using hd e
  | cons y pre =>
    obtain ⟨rfl, htail⟩ := List.cons.inj hsplit
    simpa using h pre x post e htail

/-- **Several demands** are all met, and then the table declares their uses too, or there is a
first one at fault. -/
theorem Declares.replay (coders : Coders) {t : VariableTable} {before : List Demand}
    (h : Declares t before) (ds : List Demand) :
    (∃ t', replay coders ds t = .ok t' ∧ Declares t' (before ++ ds) ∧
        CleanAfter coders before ds) ∨
      ∃ pre d post e, ds = pre ++ d :: post ∧ CleanAfter coders before pre ∧
        d.Fault coders (before ++ pre) e ∧ replay coders ds t = .error e := by
  -- the demands met so far move from `ds` to `before`, and the table with them
  induction ds generalizing t before with
  | nil =>
    refine .inl ⟨t, rfl, by rwa [List.append_nil], ?_⟩
    intro pre d post e hsplit
    simp at hsplit
  | cons d r ih =>
    rcases h.meet coders d with ⟨t₁, hmeet, ht₁, hclean⟩ | ⟨e, hmeet, hfault⟩
    · have hstep : Demand.replay coders (d :: r) t = Demand.replay coders r t₁ := by
        rw [Demand.replay, hmeet]
        rfl
      rcases ih ht₁ with ⟨t₂, hr, ht₂, hcl⟩ | ⟨pre, x, post, e, hsplit, hcl, hfault, hr⟩
      · refine .inl ⟨t₂, by rw [hstep, hr], ?_, hcl.cons hclean⟩
        simpa using ht₂
      · refine .inr ⟨d :: pre, x, post, e, ?_, hcl.cons hclean, ?_, by rw [hstep, hr]⟩
        · rw [hsplit]
          rfl
        · simpa using hfault
    · refine .inr ⟨[], d, r, e, rfl, ?_, by simpa using hfault, ?_⟩
      · intro pre x post e hsplit
        simp at hsplit
      · rw [Demand.replay, hmeet]
        rfl

/-- Demands are met exactly when none is at fault. -/
theorem replay_eq_ok_iff {ds : List Demand} :
    (∃ t, replay coders ds Dictionary.empty = .ok t) ↔ Clean coders ds := by
  rcases declares_empty.replay coders ds with
    ⟨t, hr, -, hclean⟩ | ⟨pre, d, post, e, hsplit, -, hfault, hr⟩
  · exact ⟨fun _ => hclean, fun _ => ⟨t, hr⟩⟩
  · constructor
    · rintro ⟨t, ht⟩
      rw [hr] at ht
      exact absurd ht (by simp)
    · exact fun hclean => absurd hfault (hclean pre d post e hsplit)

/-- **Demands fail at the first one at fault.** -/
theorem replay_eq_error_iff {ds : List Demand} {e : QueryError} :
    replay coders ds Dictionary.empty = .error e ↔
      ∃ pre d post, ds = pre ++ d :: post ∧ Clean coders pre ∧ d.Fault coders pre e := by
  constructor
  · intro he
    rcases declares_empty.replay coders ds with
      ⟨t, hr, -, -⟩ | ⟨pre, d, post, e', hsplit, hclean, hfault, hr⟩
    · rw [hr] at he
      exact absurd he (by simp)
    · rw [hr] at he
      obtain rfl := Except.error.inj he
      exact ⟨pre, d, post, hsplit, hclean, hfault⟩
  · rintro ⟨pre, d, post, rfl, hclean, hfault⟩
    -- what stands before the fault is met, and its table says that the fault is one
    obtain ⟨t, ht⟩ := replay_eq_ok_iff.2 hclean
    have hdecl : Declares t pre := by
      rcases declares_empty.replay coders pre with
        ⟨t', hr, ht', -⟩ | ⟨_, _, _, _, _, _, _, hr⟩ <;> simp_all
    rcases hdecl.meet coders d with ⟨_, _, _, hno⟩ | ⟨e', hmeet, hfault'⟩
    · exact absurd hfault (hno e)
    · rw [replay_append, ht, hfault.unique hfault']
      show (d.meet coders t).bind _ = _
      rw [hmeet]
      rfl

/-- The table is empty exactly where no variable is used. -/
theorem Declares.isEmpty_iff {t : VariableTable} {ds : List Demand} (h : Declares t ds) :
    t.isEmpty = true ↔ uses ds = [] := by
  have hkeys : t.entries.map Prod.fst = firstNames ds := h.keys
  rw [Dictionary.isEmpty, List.isEmpty_iff, ← List.map_eq_nil_iff (f := Prod.fst), hkeys,
    firstNames]
  cases uses ds with
  | nil => simp
  | cons x r => simp [List.eraseDups_cons]

theorem use?_eq_some_iff {d : Demand} {x : Variable} :
    d.use? = some x ↔ ∃ text, d = marked text ∧ Variable.ofText text = .ok (some x) := by
  cases d with
  | encoding scalar v => simp [use?, mark?]
  | marked text =>
    cases hx : Variable.ofText text <;> simp [use?, mark?, hx]

/-- Among clean demands every use of a name gives the type that the table has. -/
theorem Declares.type_of_use {t : VariableTable} {ds : List Demand} (h : Declares t ds)
    (hclean : Clean coders ds) {x : Variable} (hx : x ∈ uses ds) :
    t.get? x.name = some x.type := by
  obtain ⟨d, hd, huse⟩ := List.mem_filterMap.1 hx
  obtain ⟨pre, post, rfl⟩ := List.append_of_mem hd
  obtain ⟨text, rfl, htext⟩ := use?_eq_some_iff.1 huse
  -- an earlier use of the name gives the same type, or this one would be at fault
  rw [h.get?, firstType?_append, firstType?_cons_use huse, if_pos rfl]
  cases hfirst : firstType? pre x.name with
  | none => rfl
  | some first =>
    by_cases htype : first = x.type
    · rw [htype]
      rfl
    · exact absurd (Fault.conflict htext hfirst htype) (hclean pre _ post _ rfl)

/-- Among clean demands no string with the marker is malformed. -/
theorem Clean.ofText_of_mem {ds : List Demand} (h : Clean coders ds) {text : String}
    (hmem : marked text ∈ ds) (hmarked : Argument.isMarked text = true) :
    ∃ x, Variable.ofText text = .ok (some x) := by
  rcases Argument.ofText_of_isMarked hmarked with hx | hx
  · exact hx
  · obtain ⟨pre, post, rfl⟩ := List.append_of_mem hmem
    have hbad := (Variable.ofText_eq_error_iff.1 hx).1
    exact absurd (Fault.malformed hbad) (h pre _ post _ rfl)

/-- Clean demands have no malformed strings: every marked string is the use of a variable. -/
theorem Clean.map_marks {ds : List Demand} (h : Clean coders ds)
    (hmarked : ∀ text, marked text ∈ ds → Argument.isMarked text = true) :
    (marks ds).map Variable.ofText = (uses ds).map fun x => .ok (some x) := by
  have hone : ∀ d ∈ ds, d.mark?.map Variable.ofText = d.use?.map fun x => .ok (some x) := by
    intro d hd
    cases d with
    | encoding scalar v => rfl
    | marked text =>
      obtain ⟨x, hx⟩ := h.ofText_of_mem hd (hmarked text hd)
      simp [use?, mark?, hx]
  rw [marks, uses, List.map_filterMap, List.map_filterMap]
  exact List.filterMap_congr hone

end Demand

/-! ### Marked strings of a selection -/

namespace Argument

variable {schema : Schema} {coders : Coders}

theorem isMarked_of_demand? {path : SchemaPath} {v : Json} {text : String}
    (h : demand? schema coders path v = some (.marked text)) : isMarked text = true := by
  cases v with
  | string s =>
    rw [demand?] at h
    split at h
    · cases h
      assumption
    · simp at h
  | _ => simp [demand?] at h

/-- The demands of a value are the one it makes as a whole, or else those of its parts. -/
theorem mem_elim_demand? {path : SchemaPath} {v : Json} {ds : List Demand} {d : Demand}
    (h : d ∈ (demand? schema coders path v).elim ds fun d => [d]) :
    demand? schema coders path v = some d ∨ d ∈ ds := by
  cases hd : demand? schema coders path v with
  | none => simp_all
  | some x => simp_all

mutual

theorem isMarked_of_mem_demands (path : SchemaPath) : ∀ (v : Json) {text : String},
    .marked text ∈ demands schema coders path v → isMarked text = true
  | .array items, _, h => by
    rw [demands] at h
    rcases mem_elim_demand? h with h | h
    · exact isMarked_of_demand? h
    · exact isMarked_of_mem_itemDemands path items h
  | .object members, _, h => by
    rw [demands] at h
    rcases mem_elim_demand? h with h | h
    · exact isMarked_of_demand? h
    · exact isMarked_of_mem_memberDemands path members h
  | .string _, _, h => isMarked_of_demand? ((mem_elim_demand? h).resolve_right (by simp))
  | .null, _, h => isMarked_of_demand? ((mem_elim_demand? h).resolve_right (by simp))
  | .bool _, _, h => isMarked_of_demand? ((mem_elim_demand? h).resolve_right (by simp))
  | .number _, _, h => isMarked_of_demand? ((mem_elim_demand? h).resolve_right (by simp))

theorem isMarked_of_mem_itemDemands (path : SchemaPath) : ∀ (vs : List Json) {text : String},
    .marked text ∈ itemDemands schema coders path vs → isMarked text = true
  | [], _, h => by simp [itemDemands] at h
  | v :: r, _, h => by
    rw [itemDemands] at h
    rcases List.mem_append.1 h with h | h
    · exact isMarked_of_mem_demands path v h
    · exact isMarked_of_mem_itemDemands path r h

theorem isMarked_of_mem_memberDemands (path : SchemaPath) :
    ∀ (es : List (String × Json)) {text : String},
      .marked text ∈ memberDemands schema coders path es → isMarked text = true
  | [], _, h => by simp [memberDemands] at h
  | (k, v) :: r, _, h => by
    rw [memberDemands] at h
    rcases List.mem_append.1 h with h | h
    · exact isMarked_of_mem_demands (path.argument k) v h
    · exact isMarked_of_mem_memberDemands path r h

end

end Argument

namespace Selection

variable {schema : Schema} {coders : Coders}

mutual

theorem isMarked_of_mem_demands (path : SchemaPath) (field : String) :
    ∀ (s : Selection) {text : String},
      .marked text ∈ demands schema coders path field s → Argument.isMarked text = true
  | .leaf, _, h => by simp [demands] at h
  | .raw _, _, h => by simp [demands] at h
  | .object members _, _, h => by
    rw [demands] at h
    exact isMarked_of_mem_memberDemands _ members h
  | .call arguments body, _, h => by
    rw [demands] at h
    rcases List.mem_append.1 h with h | h
    · exact Argument.isMarked_of_mem_demands _ arguments h
    · exact isMarked_of_mem_demands path field body h

/-- Every marked string among the demands of a set has the marker. -/
theorem isMarked_of_mem_memberDemands (path : SchemaPath) :
    ∀ (ms : List (MemberKey × Selection)) {text : String},
      .marked text ∈ memberDemands schema coders path ms → Argument.isMarked text = true
  | [], _, h => by simp [memberDemands] at h
  | (k, s) :: r, _, h => by
    rw [memberDemands] at h
    rcases List.mem_append.1 h with h | h
    · exact isMarked_of_mem_demands path k.field s h
    · exact isMarked_of_mem_memberDemands path r h

end

end Selection

namespace SelectionSet

theorem head_eq (operation : String) (operationName : Option String) (declared : VariableTable)
    (directives : Option String) :
    head operation operationName declared directives =
      operation ++ operationName.elim "" (" " ++ ·) ++ declarationsText declared ++
        Selection.directivesText directives := by
  cases operationName <;> rfl

/-- What is known of a query that could be written: its table, that no demand was at fault, and its
text. -/
theorem of_compile_eq_ok {schema : Schema} {coders : Coders} {operationName : Option String}
    {operation : String} {s : SelectionSet} {q : CompiledQuery}
    (h : s.compile schema coders operationName operation = .ok q) :
    Demand.Declares q.declared (s.demands schema coders operation) ∧
      Demand.Clean coders (s.demands schema coders operation) ∧
      q.text = head operation operationName q.declared s.directives ++ " " ++
        s.written schema coders operation := by
  rw [compile_eq] at h
  rcases Demand.declares_empty.replay coders (s.demands schema coders operation) with
    ⟨t, hr, ht, hclean⟩ | ⟨_, _, _, _, _, _, _, hr⟩
  · rw [hr] at h
    obtain rfl := Except.ok.inj h
    exact ⟨ht, hclean, rfl⟩
  · rw [hr] at h
    exact absurd h (by simp [Except.map])

/-- **A query declares the variables of its body.**  Compiling fails exactly at the first demand of
the body that is at fault, and succeeds where there is none.  Then every marked string is the use
of a variable, the table lists the names of these variables in the order of their first use, each
with the one type that all its uses give, and the declarations stand in parentheses after operation
and name exactly when a marked string was reached. -/
theorem compile_collects (schema : Schema) (coders : Coders) (operationName : Option String)
    (operation : String) (s : SelectionSet) :
    (∀ e, s.compile schema coders operationName operation = .error e ↔
      ∃ before d after, s.demands schema coders operation = before ++ d :: after ∧
        Demand.Clean coders before ∧ d.Fault coders before e) ∧
    ((∃ q, s.compile schema coders operationName operation = .ok q) ↔
      Demand.Clean coders (s.demands schema coders operation)) ∧
    ∀ q, s.compile schema coders operationName operation = .ok q →
      (Demand.marks (s.demands schema coders operation)).map Variable.ofText =
        (Demand.uses (s.demands schema coders operation)).map (fun x => .ok (some x)) ∧
      q.declared.keys =
        ((Demand.uses (s.demands schema coders operation)).map Variable.name).eraseDups ∧
      (∀ x ∈ Demand.uses (s.demands schema coders operation),
        q.declared.get? x.name = some x.type) ∧
      q.text =
        operation ++ operationName.elim "" (" " ++ ·) ++
          (if Demand.marks (s.demands schema coders operation) = [] then ""
            else "(" ++
              ", ".intercalate (q.declared.entries.map fun e => "$" ++ e.1 ++ ": " ++ e.2) ++ ")") ++
          Selection.directivesText s.directives ++ " " ++ s.written schema coders operation := by
  refine ⟨fun e => ?_, ?_, fun q hq => ?_⟩
  · rw [compile_eq, ← Demand.replay_eq_error_iff]
    cases Demand.replay coders (s.demands schema coders operation) Dictionary.empty <;>
      simp [Except.map]
  · rw [compile_eq, ← Demand.replay_eq_ok_iff]
    cases Demand.replay coders (s.demands schema coders operation) Dictionary.empty <;>
      simp [Except.map]
  · obtain ⟨ht, hclean, htext⟩ := of_compile_eq_ok hq
    have hmarks := hclean.map_marks fun text => Selection.isMarked_of_mem_memberDemands _ s.members
    -- no declarations, no uses, no marked strings
    have hempty : q.declared.isEmpty = true ↔
        Demand.marks (s.demands schema coders operation) = [] := by
      rw [ht.isEmpty_iff, ← List.map_eq_nil_iff, ← hmarks, List.map_eq_nil_iff]
    refine ⟨hmarks, ht.keys, fun x hx => ht.type_of_use hclean hx, ?_⟩
    rw [htext, head_eq, declarationsText]
    simp only [hempty]
    rfl

end SelectionSet

end FieldQuery
