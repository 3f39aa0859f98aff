/-
**The arguments of a call as a whole.**

The arguments of a call are an object, and they are written entry by entry.  Their position is
classified like that of any value, though, and where the schema says nothing of the arguments of a
field, the position is classified as the result of the field.  If that is a scalar with an encoder,
the arguments are shown to the encoder as if they were a value of the scalar.  This module says
exactly when that happens, and what holds where it does not.

Main definitions:

* `Schema.totalSchema` — a field that returns a scalar and declares no arguments.

Main results:

* `Argument.part_of_mem_demands` — what is shown to an encoder is a part of the value;
* `Schema.classify_arguments` — the classification of the arguments of a field;
* `Selection.result_text_call` — a call meets the demands of its arguments before those of its body;
* `Selection.arguments_by_entry` — **arguments are shown to an encoder as a whole exactly where
  their position has one**, and are written entry by entry everywhere else;
* `SelectionSet.compile_of_no_arguments` — an empty object of arguments is refused by the encoder of
  the result.
-/

import FieldQuery.Proofs.Query.Encoding
import FieldQuery.Proofs.Schema.Walk

set_option autoImplicit false

namespace FieldQuery

/-! ### Parts of a document -/

namespace Json

/-- A part is not larger than the whole. -/
theorem sizeOf_le_of_at? {v w : Json} {place : List Nat} (h : v.at? place = some w) :
    sizeOf w ≤ sizeOf v := by
  induction place generalizing v with
  | nil =>
    obtain rfl := Option.some.inj h
    exact Nat.le_refl _
  | cons i place ih =>
    obtain ⟨u, hu, hw⟩ := Option.bind_eq_some_iff.1 h
    exact Nat.le_trans (ih hw) (Nat.le_of_lt (sizeOf_lt_of_part? hu))

/-- No value is a part of itself. -/
theorem at?_cons_ne_self {v : Json} {i : Nat} {place : List Nat} :
    v.at? (i :: place) ≠ some v := by
  intro h
  obtain ⟨u, hu, hv⟩ := Option.bind_eq_some_iff.1 h
  exact absurd (sizeOf_le_of_at? hv) (Nat.not_le.2 (sizeOf_lt_of_part? hu))

end Json

namespace Argument

variable {schema : Schema} {coders : Coders}

/-! ### What encoders are shown -/

/-- A demand that a value makes as a whole shows the value to an encoder. -/
theorem eq_of_demand?_eq_encoding {path : SchemaPath} {v w : Json} {name : String}
    (h : demand? schema coders path v = some (.encoding name w)) : w = v := by
  cases v with
  | string s =>
    rw [demand?] at h
    split at h
    · cases h
    · obtain ⟨e, _, he⟩ := Option.map_eq_some_iff.1 h
      cases he
      rfl
  | _ =>
    obtain ⟨e, _, he⟩ := Option.map_eq_some_iff.1 h
    cases he
    rfl

/-- What a value as a whole or its parts show to an encoder is the value itself, or is shown by a
part. -/
theorem part_or_mem {path : SchemaPath} {v w : Json} {name : String} {ds : List Demand}
    (h : .encoding name w ∈ (demand? schema coders path v).elim ds fun e => [e]) :
    v.at? [] = some w ∨ .encoding name w ∈ ds := by
  cases hd : demand? schema coders path v with
  | none => exact .inr (by simpa [hd] using h)
  | some e =>
    have he : .encoding name w = e := by simpa [hd] using h
    rw [← he] at hd
    exact .inl (by rw [eq_of_demand?_eq_encoding hd, Json.at?])

/-- What a value without parts shows to an encoder is the value itself. -/
theorem part_of_mem_whole {path : SchemaPath} {v w : Json} {name : String}
    (h : .encoding name w ∈ (demand? schema coders path v).elim [] fun e => [e]) :
    ∃ place, v.at? place = some w :=
  ⟨[], (part_or_mem h).resolve_right List.not_mem_nil⟩

mutual

/-- **What is shown to an encoder** is a part of the value, or the value itself. -/
theorem part_of_mem_demands {name : String} {w : Json} (path : SchemaPath) : ∀ v : Json,
    .encoding name w ∈ demands schema coders path v → ∃ place, v.at? place = some w
  | .array items, h => by
    rw [demands] at h
    rcases part_or_mem h with h | h
    · exact ⟨[], h⟩
    · obtain ⟨i, place, v, hi, hat⟩ := part_of_mem_itemDemands path items h
      have hpart : (Json.array items).part? i = some v := hi
      exact ⟨i :: place, Option.bind_eq_some_iff.2 ⟨v, hpart, hat⟩⟩
  | .object members, h => by
    rw [demands] at h
    rcases part_or_mem h with h | h
    · exact ⟨[], h⟩
    · obtain ⟨i, place, v, hi, hat⟩ := part_of_mem_memberDemands path members h
      exact ⟨i :: place, Option.bind_eq_some_iff.2 ⟨v, hi, hat⟩⟩
  | .string _, h => by
    rw [demands] at h
    exact part_of_mem_whole h
  | .null, h => by
    rw [demands] at h
    exact part_of_mem_whole h
  | .bool _, h => by
    rw [demands] at h
    exact part_of_mem_whole h
  | .number _, h => by
    rw [demands] at h
    exact part_of_mem_whole h

theorem part_of_mem_itemDemands {name : String} {w : Json} (path : SchemaPath) :
    ∀ vs : List Json, .encoding name w ∈ itemDemands schema coders path vs →
      ∃ (i : Nat) (place : List Nat) (v : Json), vs[i]? = some v ∧ v.at? place = some w
  | [], h => by simp [itemDemands] at h
  | v :: r, h => by
    rw [itemDemands] at h
    rcases List.mem_append.1 h with h | h
    · obtain ⟨place, hat⟩ := part_of_mem_demands path v h
      exact ⟨0, place, v, rfl, hat⟩
    · obtain ⟨i, place, u, hi, hat⟩ := part_of_mem_itemDemands path r h
      exact ⟨i + 1, place, u, hi, hat⟩

theorem part_of_mem_memberDemands {name : String} {w : Json} (path : SchemaPath) :
    ∀ es : List (String × Json), .encoding name w ∈ memberDemands schema coders path es →
      ∃ (i : Nat) (place : List Nat) (v : Json), (Json.object es).part? i = some v ∧
        v.at? place = some w
  | [], h => by simp [memberDemands] at h
  | (k, v) :: r, h => by
    rw [memberDemands] at h
    rcases List.mem_append.1 h with h | h
    · obtain ⟨place, hat⟩ := part_of_mem_demands (path.argument k) v h
      exact ⟨0, place, v, rfl, hat⟩
    · obtain ⟨i, place, u, hi, hat⟩ := part_of_mem_memberDemands path r h
      exact ⟨i + 1, place, u, hi, hat⟩

end

/-! ### Objects that are not encoded -/

/-- The demands of an object at a position without an encoder are those of its entries. -/
theorem demands_object_of_no_encoder {path : SchemaPath}
    (h : encoderAt? schema coders path = none) (entries : List (String × Json)) :
    demands schema coders path (.object entries) = memberDemands schema coders path entries := by
  rw [demands, demand?_of_no_encoder rfl (by rw [h]; rfl)]
  rfl

/-- An object at a position without an encoder is written entry by entry. -/
theorem argumentsText_of_no_encoder {path : SchemaPath}
    (h : encoderAt? schema coders path = none) (entries : List (String × Json)) :
    (value schema coders path (.object entries)).argumentsText =
      ", ".intercalate (entries.map fun e =>
        e.1 ++ ": " ++ (value schema coders (path.argument e.1) e.2).text) := by
  rw [value, whole?, demand?_of_no_encoder rfl (by rw [h]; rfl), Option.map_none, Option.getD_none,
    QueryValue.argumentsText, QueryValue.entryTexts_eq_map, memberValues_eq_map, List.map_map]
  rfl

/-- An object at a position with an encoder is shown to it. -/
theorem demands_object_of_encoder {path : SchemaPath}
    {e : String × (Json → Except CoderError String)}
    (h : encoderAt? schema coders path = some e) (entries : List (String × Json)) :
    demands schema coders path (.object entries) = [.encoding e.1 (.object entries)] := by
  rw [demands, demand?_of_not_marked path (.object entries) rfl, h]
  rfl

/-- No arguments at a position without an encoder are no text. -/
theorem listText_empty {path : SchemaPath} (h : encoderAt? schema coders path = none) :
    listText schema coders path (.object []) = pure "" := by
  have hwhole : wholeText? schema coders path (.object []) = pure none := by
    unfold wholeText?
    cases hc : schema.classify path with
    | scalar name =>
      have henc : coders.encoder? name = none := by simpa [encoderAt?, hc] using h
      simp [Coders.encode?, henc, Except.mapError]
      rfl
    | _ => rfl
  rw [listText, hwhole]
  rfl

end Argument

/-! ### The position of arguments -/

/-- Arguments of a field are classified as an input of that name, or, where the schema says nothing
of its arguments, as the result of the field.  Declared arguments make them neither. -/
theorem Schema.classify_arguments (s : Schema) (operation field : String) (fs : List String)
    {type : String} (hwalk : s.walk? (s.rootType operation) fs = some type) :
    s.classify (⟨operation, .field⟩ :: fs.map (fun f => ⟨f, .field⟩) ++ [⟨field, .argument⟩]) =
      match s.inputField? type field with
      | some (.type t) => s.classifyType t
      | some (.arguments _) => .neither
      | none =>
        match s.resultField? type field with
        | some t => s.classifyType t
        | none => .neither := by
  rw [List.cons_append, classify]
  generalize s.rootType operation = root at hwalk ⊢
  induction fs generalizing root with
  | nil =>
    obtain rfl := Option.some.inj hwalk
    simp only [List.map_nil, List.nil_append, classifyFrom, Segment.isArgument]
    cases s.inputField? root field with
    | none => cases s.resultField? root field <;> simp
    | some x => cases x <;> simp
  | cons f r ih =>
    rw [walk?_cons] at hwalk
    obtain ⟨t, ht, hr⟩ := Option.bind_eq_some_iff.1 hwalk
    rw [List.map_cons, List.cons_append, classifyFrom_field, ht]
    exact ih t hr

namespace Selection

variable {schema : Schema} {coders : Coders}

/-- Writing a call is meeting the demands of its arguments, and then writing its body under the key
with the text of the arguments. -/
theorem result_text_call (path : SchemaPath) (key field : String) (arguments : Json)
    (body : Selection) (t : VariableTable) :
    (text schema coders path key field (.call arguments body)).result t =
      (Demand.replay coders
        (Argument.demands schema coders (path.argument field) arguments) t).bind fun t' =>
          (text schema coders path
            (keyWithArguments key (callText schema coders path field arguments)) field body).result
              t' := by
  rw [text, Compilation.result_bind, Argument.result_listText]
  cases Demand.replay coders (Argument.demands schema coders (path.argument field) arguments) t <;>
    rfl

/-- **The arguments of a call** are shown to an encoder as a whole exactly where their position has
one.  Everywhere else what is shown to an encoder is inside an entry, the text between the
parentheses is that of the entries with commas between them, and a call without arguments is its
body. -/
theorem arguments_by_entry (schema : Schema) (coders : Coders) (path : SchemaPath)
    (key field : String) (entries : List (String × Json)) (body : Selection) :
    (∀ t, (text schema coders path key field (.call (.object entries) body)).result t =
      (Demand.replay coders
        (Argument.demands schema coders (path.argument field) (.object entries)) t).bind fun t' =>
          (text schema coders path
            (keyWithArguments key (callText schema coders path field (.object entries))) field
              body).result t') ∧
    ((∃ name, .encoding name (.object entries) ∈
        Argument.demands schema coders (path.argument field) (.object entries)) ↔
      (Argument.encoderAt? schema coders (path.argument field)).isSome) ∧
    (Argument.encoderAt? schema coders (path.argument field) = none →
      (∀ name v, .encoding name v ∈
          Argument.demands schema coders (path.argument field) (.object entries) →
        ∃ i place, (Json.object entries).at? (i :: place) = some v) ∧
      callText schema coders path field (.object entries) =
        ", ".intercalate (entries.map fun e => e.1 ++ ": " ++
          (Argument.value schema coders ((path.argument field).argument e.1) e.2).text) ∧
      text schema coders path key field (.call (.object []) body) =
        text schema coders path key field body) := by
  have hinside (h : Argument.encoderAt? schema coders (path.argument field) = none) (name : String)
      (v : Json) (hv : .encoding name v ∈
        Argument.demands schema coders (path.argument field) (.object entries)) :
      ∃ i place, (Json.object entries).at? (i :: place) = some v := by
    rw [Argument.demands_object_of_no_encoder h] at hv
    obtain ⟨i, place, u, hu, hat⟩ := Argument.part_of_mem_memberDemands _ entries hv
    exact ⟨i, place, Option.bind_eq_some_iff.2 ⟨u, hu, hat⟩⟩
  refine ⟨result_text_call path key field (.object entries) body,
    ⟨fun ⟨name, hv⟩ => ?_, fun h => ?_⟩, fun h => ⟨hinside h, ?_, ?_⟩⟩
  · -- without an encoder the object would be a part of itself
    by_contra hnone
    obtain ⟨i, place, hat⟩ := hinside (by simpa using hnone) name _ hv
    exact Json.at?_cons_ne_self hat
  · obtain ⟨e, he⟩ := Option.isSome_iff_exists.1 h
    exact ⟨e.1, by rw [Argument.demands_object_of_encoder he]; exact List.mem_cons_self⟩
  · exact Argument.argumentsText_of_no_encoder h entries
  · rw [text, Argument.listText_empty h, pure_bind]
    rfl

end Selection

namespace SelectionSet

/-! ### A total without arguments -/

/-- A schema in which `total` returns a number, which is a custom scalar, and declares no
arguments. -/
def totalSchema : Schema :=
  ⟨.ofEntries [("query", "Query")], .empty,
    .ofEntries [("Query", .fields (.ofEntries [("total", "numeric")])),
      ("numeric", .scalar "numeric")]⟩

/-- The total, asked for with an empty object of arguments. -/
def totalOfNothing : SelectionSet := SelectionSet.empty.withCall "total" (.object []) .leaf

/-- **An empty object of arguments** of a field that returns a scalar is refused by the encoder of
the scalar, though without the call the query can be written. -/
theorem compile_of_no_arguments :
    totalOfNothing.compile totalSchema numericCoders none "query" =
      .error (.coder (.invalidValue "\x7b\x7d")) ∧
    totalOfNothing.demands totalSchema numericCoders "query" = [.encoding "numeric" (.object [])] ∧
    (SelectionSet.empty.withField "total").compile totalSchema numericCoders none "query" =
      .ok ⟨"query \x7b total \x7d", .empty⟩ := by
  decide +kernel

end SelectionSet

end FieldQuery
