/-
**The positions of a query.**

While a selection is written, positions are built step by step: from the operation through the
fields that have members, then into the arguments of a call, and from there into the inputs below.
A position is never led back from arguments to fields, because the members of a call are written at
the position of the call and not at that of its arguments.  So every position has the form of which
its text can tell all, as long as the names can.

The positions are listed here beside the text.  That the list is complete is not a matter of
comparing two recursions by eye: two schemas that classify the listed positions alike give the same
query, whatever they say of others.

Main definitions:

* `Argument.positions`, `Selection.positions`, `SelectionSet.positions` — the positions of a value,
  of a member, and of a query.

Main results:

* `Argument.exists_arguments_of_mem_positions`, `Selection.exists_runs_of_mem_positions`,
  `SelectionSet.exists_runs_of_mem_positions` — fields come first, then arguments;
* `Argument.text_of_classify_eq`, `Selection.text_of_classify_eq`,
  `SelectionSet.compile_of_classify_eq` — **the schema is asked about these positions alone**;
* `SchemaPath.read_again_exactly` — **which positions are read from their own text, and that those
  of queries are among them**.
-/

import FieldQuery.Proofs.Query.Locality
import FieldQuery.Proofs.Schema.Path

set_option autoImplicit false

namespace FieldQuery

namespace Argument

/-! ### Values -/

mutual

/-- The positions of a value and of all values in it. -/
def positions (path : SchemaPath) : Json → List SchemaPath
  | .array items => path :: itemPositions path items
  | .object members => path :: memberPositions path members
  | _ => [path]

/-- The positions of elements, which are at one position. -/
def itemPositions (path : SchemaPath) : List Json → List SchemaPath
  | [] => []
  | v :: r => positions path v ++ itemPositions path r

/-- The positions of entries, each one argument further. -/
def memberPositions (path : SchemaPath) : List (String × Json) → List SchemaPath
  | [] => []
  | (k, v) :: r => positions (path.argument k) v ++ memberPositions path r

end

theorem mem_positions_self (path : SchemaPath) (v : Json) : path ∈ positions path v := by
  cases v <;> simp [positions]

mutual

/-- In a value there are only arguments. -/
theorem exists_arguments_of_mem_positions {p path : SchemaPath} :
    ∀ v : Json, p ∈ positions path v → ∃ as, p = path ++ SchemaPath.arguments as
  | .array items, h => by
    rw [positions] at h
    rcases List.mem_cons.1 h with rfl | h
    · exact ⟨[], (List.append_nil _).symm⟩
    · exact exists_arguments_of_mem_itemPositions items h
  | .object members, h => by
    rw [positions] at h
    rcases List.mem_cons.1 h with rfl | h
    · exact ⟨[], (List.append_nil _).symm⟩
    · exact exists_arguments_of_mem_memberPositions members h
  | .null, h => ⟨[], by simpa [positions] using h⟩
  | .bool _, h => ⟨[], by simpa [positions] using h⟩
  | .number _, h => ⟨[], by simpa [positions] using h⟩
  | .string _, h => ⟨[], by simpa [positions] using h⟩

theorem exists_arguments_of_mem_itemPositions {p path : SchemaPath} :
    ∀ vs : List Json, p ∈ itemPositions path vs → ∃ as, p = path ++ SchemaPath.arguments as
  | [], h => absurd h List.not_mem_nil
  | v :: r, h => by
    rw [itemPositions] at h
    rcases List.mem_append.1 h with h | h
    · exact exists_arguments_of_mem_positions v h
    · exact exists_arguments_of_mem_itemPositions r h

theorem exists_arguments_of_mem_memberPositions {p path : SchemaPath} :
    ∀ es : List (String × Json), p ∈ memberPositions path es →
      ∃ as, p = path ++ SchemaPath.arguments as
  | [], h => absurd h List.not_mem_nil
  | (k, v) :: r, h => by
    rw [memberPositions] at h
    rcases List.mem_append.1 h with h | h
    · obtain ⟨as, rfl⟩ := exists_arguments_of_mem_positions v h
      exact ⟨Key.purify k :: as, by simp [SchemaPath.argument]⟩
    · exact exists_arguments_of_mem_memberPositions r h

end

variable {schema schema' : Schema} {coders : Coders}

/-- A value as a whole is written as its own position asks. -/
theorem wholeText?_of_classify_eq {path : SchemaPath}
    (h : schema'.classify path = schema.classify path) (v : Json) :
    wholeText? schema' coders path v = wholeText? schema coders path v := by
  unfold wholeText?
  rw [h]

theorem stringText_of_classify_eq {path : SchemaPath}
    (h : schema'.classify path = schema.classify path) (s : String) :
    stringText schema' path s = stringText schema path s := by
  unfold stringText
  rw [h]

mutual

/-- **The text of a value** is what the positions in it make of it. -/
theorem text_of_classify_eq {path : SchemaPath} : ∀ v : Json,
    (∀ p ∈ positions path v, schema'.classify p = schema.classify p) →
      text schema' coders path v = text schema coders path v
  | .array items, h => by
    rw [positions] at h
    obtain ⟨hself, hitems⟩ := List.forall_mem_cons.1 h
    rw [text, text, wholeText?_of_classify_eq hself, itemTexts_of_classify_eq items hitems]
  | .object members, h => by
    rw [positions] at h
    obtain ⟨hself, hmembers⟩ := List.forall_mem_cons.1 h
    rw [text, text, wholeText?_of_classify_eq hself, memberTexts_of_classify_eq members hmembers]
  | .string s, h => by
    have hself := h path (mem_positions_self path _)
    simp only [text, wholeText?_of_classify_eq hself, stringText_of_classify_eq hself]
  | .null, h => by
    rw [text, text, wholeText?_of_classify_eq (h path (mem_positions_self path _))]
  | .bool _, h => by
    rw [text, text, wholeText?_of_classify_eq (h path (mem_positions_self path _))]
  | .number _, h => by
    rw [text, text, wholeText?_of_classify_eq (h path (mem_positions_self path _))]

theorem itemTexts_of_classify_eq {path : SchemaPath} : ∀ vs : List Json,
    (∀ p ∈ itemPositions path vs, schema'.classify p = schema.classify p) →
      itemTexts schema' coders path vs = itemTexts schema coders path vs
  | [], _ => rfl
  | v :: r, h => by
    rw [itemPositions] at h
    obtain ⟨hfirst, hrest⟩ := List.forall_mem_append.1 h
    rw [itemTexts, itemTexts, text_of_classify_eq v hfirst, itemTexts_of_classify_eq r hrest]

theorem memberTexts_of_classify_eq {path : SchemaPath} : ∀ es : List (String × Json),
    (∀ p ∈ memberPositions path es, schema'.classify p = schema.classify p) →
      memberTexts schema' coders path es = memberTexts schema coders path es
  | [], _ => rfl
  | (k, v) :: r, h => by
    rw [memberPositions] at h
    obtain ⟨hfirst, hrest⟩ := List.forall_mem_append.1 h
    rw [memberTexts, memberTexts, text_of_classify_eq v hfirst, memberTexts_of_classify_eq r hrest]

end

theorem listText_of_classify_eq {path : SchemaPath} (v : Json)
    (h : ∀ p ∈ positions path v, schema'.classify p = schema.classify p) :
    listText schema' coders path v = listText schema coders path v := by
  have htext : text schema' coders path v = text schema coders path v := text_of_classify_eq v h
  unfold listText
  rw [wholeText?_of_classify_eq (h path (mem_positions_self path v))]
  cases v with
  | object members =>
    rw [positions] at h
    dsimp only
    rw [memberTexts_of_classify_eq members (List.forall_mem_cons.1 h).2]
  | _ => simp only [htext]

end Argument

namespace Selection

/-! ### Members -/

mutual

/-- The positions of a member: those of its set and below, and those of its arguments. -/
def positions (path : SchemaPath) (field : String) : Selection → List SchemaPath
  | .leaf => []
  | .raw _ => []
  | .object members _ =>
    positionBelow path field :: memberPositions (positionBelow path field) members
  | .call arguments body =>
    Argument.positions (path.argument field) arguments ++ positions path field body

/-- The positions of the members of a set at a position. -/
def memberPositions (path : SchemaPath) : List (MemberKey × Selection) → List SchemaPath
  | [] => []
  | (k, s) :: r => positions path k.field s ++ memberPositions path r

end

mutual

/-- **Fields come first, then arguments.** -/
theorem exists_runs_of_mem_positions {p path : SchemaPath} {field : String} :
    ∀ s : Selection, p ∈ positions path field s →
      ∃ fs as, p = path ++ SchemaPath.fields fs ++ SchemaPath.arguments as
  | .leaf, h => absurd h List.not_mem_nil
  | .raw _, h => absurd h List.not_mem_nil
  | .object members _, h => by
    rw [positions, positionBelow_eq] at h
    rcases List.mem_cons.1 h with rfl | h
    · exact ⟨levelOf field, [], (List.append_nil _).symm⟩
    · obtain ⟨fs, as, rfl⟩ := exists_runs_of_mem_memberPositions members h
      exact ⟨levelOf field ++ fs, as, by simp [SchemaPath.fields]⟩
  | .call arguments body, h => by
    rw [positions] at h
    rcases List.mem_append.1 h with h | h
    · obtain ⟨as, rfl⟩ := Argument.exists_arguments_of_mem_positions arguments h
      exact ⟨[], Key.purify field :: as, by simp [SchemaPath.argument]⟩
    · exact exists_runs_of_mem_positions body h

theorem exists_runs_of_mem_memberPositions {p path : SchemaPath} :
    ∀ ms : List (MemberKey × Selection), p ∈ memberPositions path ms →
      ∃ fs as, p = path ++ SchemaPath.fields fs ++ SchemaPath.arguments as
  | [], h => absurd h List.not_mem_nil
  | (_, s) :: r, h => by
    rw [memberPositions] at h
    rcases List.mem_append.1 h with h | h
    · exact exists_runs_of_mem_positions s h
    · exact exists_runs_of_mem_memberPositions r h

end

variable {schema schema' : Schema} {coders : Coders}

mutual

/-- **The text of a member** is what the positions in it make of it. -/
theorem text_of_classify_eq {path : SchemaPath} {field : String} :
    ∀ (s : Selection) (key : String),
      (∀ p ∈ positions path field s, schema'.classify p = schema.classify p) →
        text schema' coders path key field s = text schema coders path key field s
  | .leaf, _, _ => rfl
  | .raw _, _, _ => rfl
  | .object members _, _, h => by
    rw [positions] at h
    rw [text, text, memberTexts_of_classify_eq members (List.forall_mem_cons.1 h).2]
  | .call arguments body, key, h => by
    rw [positions] at h
    obtain ⟨harguments, hbody⟩ := List.forall_mem_append.1 h
    rw [text, text, Argument.listText_of_classify_eq arguments harguments]
    simp only [text_of_classify_eq body _ hbody]

theorem memberTexts_of_classify_eq {path : SchemaPath} : ∀ ms : List (MemberKey × Selection),
    (∀ p ∈ memberPositions path ms, schema'.classify p = schema.classify p) →
      memberTexts schema' coders path ms = memberTexts schema coders path ms
  | [], _ => rfl
  | (k, s) :: r, h => by
    rw [memberPositions] at h
    obtain ⟨hfirst, hrest⟩ := List.forall_mem_append.1 h
    rw [memberTexts, memberTexts, text_of_classify_eq s _ hfirst,
      memberTexts_of_classify_eq r hrest]

end

end Selection

namespace SelectionSet

/-! ### Queries -/

/-- The positions of a set as the body of an operation. -/
def positions (operation : String) (s : SelectionSet) : List SchemaPath :=
  SchemaPath.field [] operation ::
    Selection.memberPositions (SchemaPath.field [] operation) s.members

/-- The positions of a query begin with the operation; fields come first, then arguments. -/
theorem exists_runs_of_mem_positions {operation : String} {s : SelectionSet} {p : SchemaPath}
    (h : p ∈ s.positions operation) :
    ∃ fs as, p = SchemaPath.fields (Key.purify operation :: fs) ++ SchemaPath.arguments as := by
  rcases List.mem_cons.1 h with rfl | h
  · exact ⟨[], [], rfl⟩
  · obtain ⟨fs, as, rfl⟩ := Selection.exists_runs_of_mem_memberPositions s.members h
    exact ⟨fs, as, rfl⟩

/-- **The schema is asked about the positions of a query alone.** -/
theorem compile_of_classify_eq {schema schema' : Schema} {operation : String} {s : SelectionSet}
    (h : ∀ p ∈ s.positions operation, schema'.classify p = schema.classify p) (coders : Coders)
    (operationName : Option String) :
    s.compile schema' coders operationName operation =
      s.compile schema coders operationName operation := by
  unfold compile bodyText
  rw [Selection.memberTexts_of_classify_eq s.members (List.forall_mem_cons.1 h).2]

end SelectionSet

namespace SchemaPath

/-! ### Positions and their texts -/

/-- **The positions that are read from their own text** are the empty one and the runs of fields,
one at least, with a run of arguments behind them, of which the names can be told.  The positions
that a query asks the schema about are such runs, beginning with the operation, so only their names
decide whether they are read from their texts; and no other position matters to the query. -/
theorem read_again_exactly :
    (∀ p : SchemaPath, ofText p.display = p ↔
      p = [] ∨ ∃ f fs as, p = fields (f :: fs) ++ arguments as ∧ ∀ x ∈ p, x.IsLegible) ∧
    ∀ (operation : String) (s : SelectionSet),
      (∀ p ∈ s.positions operation,
        (∃ fs as, p = fields (Key.purify operation :: fs) ++ arguments as) ∧
        (ofText p.display = p ↔ ∀ x ∈ p, x.IsLegible)) ∧
      ∀ schema schema' : Schema,
        (∀ p ∈ s.positions operation, schema'.classify p = schema.classify p) →
          ∀ (coders : Coders) (operationName : Option String),
            s.compile schema' coders operationName operation =
              s.compile schema coders operationName operation := by
  refine ⟨fun p => ofText_display_iff, fun operation s => ⟨fun p hp => ?_, ?_⟩⟩
  · obtain ⟨fs, as, hruns⟩ := SelectionSet.exists_runs_of_mem_positions hp
    refine ⟨⟨fs, as, hruns⟩, ?_⟩
    rw [ofText_display_iff]
    constructor
    · rintro (hempty | ⟨_, _, _, _, hlegible⟩)
      · rw [hempty] at hruns
        cases hruns
      · exact hlegible
    · intro hlegible
      exact .inr ⟨_, fs, as, hruns, hlegible⟩
  · intro schema schema' h
    exact SelectionSet.compile_of_classify_eq h

/-- The position of the supply among the conditions for the tokens of a user. -/
def supplyPosition : SchemaPath :=
  fields ["query", "user"] ++ arguments ["tokens", "where", "supply"]

/-- The tokens of a user are asked for at the position of their supply, which is read from its own
text, and a schema that describes more than the query needs makes the same query. -/
theorem read_again_supply :
    supplyPosition ∈ (SelectionSet.tokensSite.fill
      (SelectionSet.supplyArguments ⟨7, by decide, by decide⟩)).positions "query" ∧
    supplyPosition.display = "query.user|tokens.where.supply" ∧
    ofText "query.user|tokens.where.supply" = supplyPosition ∧
    (SelectionSet.tokensSite.fill (SelectionSet.supplyArguments ⟨7, by decide, by decide⟩)).compile
        { SelectionSet.userSchema with
          results := .ofEntries
            [("Query", .fields (.ofEntries [("user", "user"), ("now", "Date")])),
              ("Date", .scalar "Date")] }
        SelectionSet.numericCoders none "query" = .ok (SelectionSet.tokensQuery "7") := by
  have hmem : supplyPosition ∈ (SelectionSet.tokensSite.fill
      (SelectionSet.supplyArguments ⟨7, by decide, by decide⟩)).positions "query" := by
    decide +kernel
  have hdisplay : supplyPosition.display = "query.user|tokens.where.supply" := by decide +kernel
  have hlegible : ∀ x ∈ supplyPosition, x.IsLegible := by decide +kernel
  obtain ⟨hread, hcompile⟩ := read_again_exactly.2 "query" (SelectionSet.tokensSite.fill
    (SelectionSet.supplyArguments ⟨7, by decide, by decide⟩))
  refine ⟨hmem, hdisplay, ?_, ?_⟩
  · rw [← hdisplay]
    exact (hread supplyPosition hmem).2.2 hlegible
  · rw [hcompile SelectionSet.userSchema _ (by decide +kernel)]
    decide +kernel

end SchemaPath

end FieldQuery
