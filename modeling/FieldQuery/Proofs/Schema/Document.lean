/-
**Tables that are read again.**

Tables are written by one hand and read by another, and the two meet in nothing but the forms of
the document.  A shape is a string or an object, and so is a field where arguments are described;
neither says which of its alternatives it is, and the reader tells by the form alone.  So it has to
be shown that no scalar has the marker of an enumeration, whatever its name, that fields are never
taken for a marker, and that what comes last in a text does not move to the front.

One thing the writer can write and the reader refuses: a scalar without a name.  It is refused and
not mistaken for something else, and the reader never makes one.

Main definitions:

* `TypeShape.IsNamed`, `Schema.NamesScalars` — a scalar has a name, and so have all of the tables.

Main results:

* `TypeShape.ofMarker?_eq_some_iff` — which shape a marker stands for;
* `TypeShape.ofContent_toJson_iff` — a shape is read again exactly if it is named;
* `Json.Outline.dictionary_ofJson_iff` — a dictionary is read again exactly if its values are;
* `Schema.record_toJson_iff`, `Schema.readsAs_toJson` — the tables are read from their document, and
  their document from its text;
* `Schema.namesScalars_of_read` — tables that are read name their scalars;
* `Schema.read_written_exactly` — **tables are read as they were written, or not at all**.
-/

import FieldQuery.Proofs.Json.Document
import FieldQuery.Proofs.Json.Record
import FieldQuery.Schema.Document

set_option autoImplicit false

namespace FieldQuery

/-! ### Names of scalars -/

/-- If the shape is a scalar, it has a name. -/
def TypeShape.IsNamed {φ : Type} : TypeShape φ → Prop
  | .scalar name => name ≠ ""
  | _ => True

/-- The scalars of the tables have names. -/
structure Schema.NamesScalars (s : Schema) : Prop where
  inputs : ∀ e ∈ s.inputs.entries, e.2.IsNamed
  results : ∀ e ∈ s.results.entries, e.2.IsNamed

/-! ### Dictionaries -/

namespace Json.Outline

variable {α : Type} {reader : Outline → Except ReadError α}

/-- Entries are read again exactly if their values are. -/
theorem entries_ofMembers_iff {write : α → Json} {P : α → Prop}
    (h : ∀ x y, reader (.ofJson (write x)) = .ok y ↔ y = x ∧ P x) :
    ∀ es es' : Entries α, entries reader (ofMembers (es.map fun e => (e.1, write e.2))) = .ok es' ↔
      es' = es ∧ ∀ e ∈ es, P e.2 := by
  intro es
  induction es with
  | nil =>
    intro es'
    rw [List.map_nil, ofMembers, entries, Except.ok.injEq]
    exact ⟨fun hes => ⟨hes.symm, List.forall_mem_nil _⟩, fun hes => hes.1.symm⟩
  | cons e r ih =>
    obtain ⟨k, x⟩ := e
    intro es'
    rw [List.map_cons, ofMembers, entries, List.forall_mem_cons]
    simp only [bind_eq_ok, h, ih]
    constructor
    · rintro ⟨_, hk, _, ⟨rfl, hx⟩, _, ⟨rfl, hr⟩, hes⟩
      cases hk
      cases hes
      exact ⟨rfl, hx, hr⟩
    · rintro ⟨rfl, hx, hr⟩
      exact ⟨k, rfl, x, ⟨rfl, hx⟩, r, ⟨rfl, hr⟩, rfl⟩

/-- **A dictionary** is read again, in the same order, exactly if its values are. -/
theorem dictionary_ofJson_iff {write : α → Json} {P : α → Prop}
    (h : ∀ x y, reader (.ofJson (write x)) = .ok y ↔ y = x ∧ P x) (d d' : Dictionary α) :
    (ofJson (.object (d.entries.map fun e => (e.1, write e.2)))).dictionary reader = .ok d' ↔
      d' = d ∧ ∀ e ∈ d.entries, P e.2 := by
  rw [ofJson, dictionary]
  simp only [bind_eq_ok, entries_ofMembers_iff h]
  constructor
  · rintro ⟨_, ⟨rfl, hvalues⟩, _, _, hd⟩
    cases hd
    exact ⟨Dictionary.ofEntries_entries d, hvalues⟩
  · rintro ⟨rfl, hvalues⟩
    exact ⟨_, ⟨rfl, hvalues⟩, (), rfl, congrArg Except.ok (Dictionary.ofEntries_entries d')⟩

/-- What holds of every value that is read holds of those of a dictionary. -/
theorem forall_of_dictionary {P : α → Prop} (h : ∀ o x, reader o = .ok x → P x) {o : Outline}
    {d : Dictionary α} (hd : o.dictionary reader = .ok d) : ∀ e ∈ d.entries, P e.2 := by
  have hentries : ∀ (ms : List (Except Flaw String × Outline)) (es : Entries α),
      entries reader ms = .ok es → ∀ e ∈ es, P e.2 := by
    intro ms
    induction ms with
    | nil =>
      intro es hes
      cases hes
      exact List.forall_mem_nil _
    | cons m r ih =>
      intro es hes
      rw [entries, bind_eq_ok] at hes
      obtain ⟨k, -, hes⟩ := hes
      obtain ⟨x, hx, hes⟩ := bind_eq_ok.1 hes
      obtain ⟨rest, hrest, hes⟩ := bind_eq_ok.1 hes
      cases hes
      exact List.forall_mem_cons.2 ⟨h _ x hx, ih rest hrest⟩
  cases o with
  | object members stop =>
    rw [dictionary, bind_eq_ok] at hd
    obtain ⟨es, hes, hd⟩ := hd
    obtain ⟨_, -, hd⟩ := bind_eq_ok.1 hd
    cases hd
    intro e he
    exact hentries members es hes e (Entries.mem_of_mem_merged he)
  | _ => cases hd

end Json.Outline

/-! ### Shapes -/

/-- Members that were written with a value each are read again. -/
theorem formedMembers?_map {φ : Type} {field : φ → Json} {field? : Json → Option φ}
    (h : ∀ x, field? (field x) = some x) (es : Entries φ) :
    formedMembers? field? (es.map fun e => (e.1, field e.2)) = some es := by
  induction es with
  | nil => rfl
  | cons e r ih => simp [formedMembers?, h, ih]

namespace TypeShape

variable {φ : Type}

/-- No marker of a scalar is that of an enumeration. -/
theorem scalarMarker_append_ne (cs : List Char) : scalarMarker ++ cs ≠ enumerationMarker := by
  intro h
  exact absurd (List.cons.inj h).1 (by decide)

/-- Which shape a marker stands for. -/
theorem ofMarker?_eq_some_iff {cs : List Char} {shape : TypeShape φ} :
    ofMarker? cs = some shape ↔
      cs = enumerationMarker ∧ shape = .enumeration ∨
        ∃ name, name ≠ "" ∧ cs = scalarMarker ++ name.toList ∧ shape = .scalar name := by
  rw [ofMarker?]
  split
  · rename_i henum
    subst henum
    constructor
    · intro h
      exact .inl ⟨rfl, (Option.some.inj h).symm⟩
    · rintro (⟨-, rfl⟩ | ⟨name, -, hcs, -⟩)
      · rfl
      · exact absurd hcs.symm (scalarMarker_append_ne _)
  · rename_i henum
    constructor
    · intro h
      split at h
      · rename_i c r hmarked
        cases h
        refine .inr ⟨_, ?_, ?_, rfl⟩
        · simp [← String.toList_inj]
        · rw [String.toList_ofList, List.isPrefixOf?_eq_some_iff_append_eq.1 hmarked]
      · cases h
    · rintro (⟨hcs, -⟩ | ⟨name, hname, rfl, rfl⟩)
      · exact absurd hcs henum
      · have hmarked : scalarMarker.isPrefixOf? (scalarMarker ++ name.toList) = some name.toList :=
          List.isPrefixOf?_eq_some_iff_append_eq.2 rfl
        rw [hmarked]
        cases hchars : name.toList with
        | nil => exact absurd (String.toList_inj.1 hchars) hname
        | cons c r =>
          dsimp only
          rw [← hchars, String.ofList_toList]

theorem toJson_enumeration (field : φ → Json) :
    toJson field .enumeration = .string (String.ofList enumerationMarker) := rfl

theorem toJson_scalar (field : φ → Json) (name : String) :
    toJson field (.scalar name) = .string (String.ofList (scalarMarker ++ name.toList)) := rfl

theorem toJson_fields (field : φ → Json) (fs : Dictionary φ) :
    toJson field (.fields fs) = .object (fs.entries.map fun e => (e.1, field e.2)) := rfl

theorem ofContent_string_iff {field? : Json → Option φ} {s : String} {shape : TypeShape φ} :
    ofContent field? (.string s) = .ok shape ↔ ofMarker? s.toList = some shape := by
  rw [ofContent]
  cases ofMarker? s.toList <;> simp

/-- **A shape** is read from its document exactly if it is named, and no other shape is read from
it. -/
theorem ofContent_toJson_iff {field : φ → Json} {field? : Json → Option φ}
    (h : ∀ x, field? (field x) = some x) (shape shape' : TypeShape φ) :
    ofContent field? (shape.toJson field) = .ok shape' ↔ shape' = shape ∧ shape.IsNamed := by
  cases shape with
  | enumeration =>
    rw [toJson_enumeration, ofContent_string_iff, String.toList_ofList, ofMarker?_eq_some_iff]
    constructor
    · rintro (⟨-, rfl⟩ | ⟨name, -, hmarker, -⟩)
      · exact ⟨rfl, trivial⟩
      · exact absurd hmarker.symm (scalarMarker_append_ne _)
    · rintro ⟨rfl, -⟩
      exact .inl ⟨rfl, rfl⟩
  | scalar name =>
    rw [toJson_scalar, ofContent_string_iff, String.toList_ofList, ofMarker?_eq_some_iff]
    constructor
    · rintro (⟨hmarker, -⟩ | ⟨name', hname, hmarker, rfl⟩)
      · exact absurd hmarker (scalarMarker_append_ne _)
      · obtain rfl := String.toList_inj.1 (List.append_cancel_left hmarker)
        exact ⟨rfl, hname⟩
    · rintro ⟨rfl, hname⟩
      exact .inr ⟨name, hname, rfl, rfl⟩
  | fields fs =>
    rw [toJson_fields, ofContent, formedMembers?_map h]
    dsimp only
    rw [Dictionary.ofEntries_entries, Except.ok.injEq]
    exact ⟨fun hshape => ⟨hshape.symm, trivial⟩, fun hshape => hshape.1.symm⟩

/-- A shape that is read is named. -/
theorem isNamed_of_ofContent {field? : Json → Option φ} {v : Json} {shape : TypeShape φ}
    (h : ofContent field? v = .ok shape) : shape.IsNamed := by
  cases v with
  | string s =>
    rw [ofContent_string_iff, ofMarker?_eq_some_iff] at h
    obtain ⟨-, rfl⟩ | ⟨name, hname, -, rfl⟩ := h
    · trivial
    · exact hname
  | object members =>
    rw [ofContent] at h
    split at h
    · cases h
      trivial
    · cases h
  | _ => cases h

end TypeShape

theorem typesJson_eq (types : Dictionary String) :
    typesJson types = .object (types.entries.map fun e => (e.1, .string e.2)) := rfl

theorem asString?_string (s : String) : (Json.string s).asString? = some s := rfl

/-- A field where arguments are described is read again. -/
theorem InputField.ofContent?_toJson (x : InputField) : ofContent? x.toJson = some x := by
  cases x with
  | type name => rfl
  | arguments types =>
    rw [toJson, typesJson_eq, ofContent?, formedMembers?_map asString?_string, Option.map_some,
      Dictionary.ofEntries_entries]

/-! ### Tables and their document -/

namespace Schema

open Json

/-- A shape in a document is read exactly if it is named. -/
theorem shape_toJson_iff {φ : Type} {field : φ → Json} {field? : Json → Option φ}
    (h : ∀ x, field? (field x) = some x) (x y : TypeShape φ) :
    shape field? (.ofJson (x.toJson field)) = .ok y ↔ y = x ∧ x.IsNamed := by
  rw [← TypeShape.ofContent_toJson_iff h, shape, Outline.content_ofJson]
  change (TypeShape.ofContent field? _).mapError _ = _ ↔ _
  cases TypeShape.ofContent field? (x.toJson field) <;> simp [Except.mapError]

theorem isNamed_of_shape {φ : Type} {field? : Json → Option φ} (o : Outline) (x : TypeShape φ)
    (h : shape field? o = .ok x) : x.IsNamed := by
  rw [shape, bind_eq_ok] at h
  obtain ⟨v, -, h⟩ := h
  cases hshape : TypeShape.ofContent field? v with
  | error e =>
    rw [hshape] at h
    cases h
  | ok y =>
    rw [hshape] at h
    cases h
    exact TypeShape.isNamed_of_ofContent hshape

/-- Three tables in a document are read one by one. -/
theorem record_read_object_iff (ops props returns : Outline) (s : Schema) :
    record.read .text
        (.object [(.ok "ops", ops), (.ok "props", props), (.ok "returns", returns)] none) = .ok s ↔
      ops.dictionary Outline.text = .ok s.operations ∧
        props.dictionary (shape InputField.ofContent?) = .ok s.inputs ∧
        returns.dictionary (shape asString?) = .ok s.results := by
  have hread : record.read .text
        (.object [(.ok "ops", ops), (.ok "props", props), (.ok "returns", returns)] none) = .ok s ↔
      ∃ o, ops.dictionary Outline.text = .ok o ∧
        ∃ i, props.dictionary (shape InputField.ofContent?) = .ok i ∧
          ∃ r, returns.dictionary (shape asString?) = .ok r ∧ ⟨o, i, r⟩ = s := by
    simp [Record.read, Record.fieldsOfMembers, record, tableNames, bind_eq_ok, orFlawed,
      Except.mapError, Outline.endsWith]
  rw [hread]
  constructor
  · rintro ⟨o, ho, i, hi, r, hr, rfl⟩
    exact ⟨ho, hi, hr⟩
  · rintro ⟨ho, hi, hr⟩
    exact ⟨_, ho, _, hi, _, hr, rfl⟩

/-- **The tables** are read from their document exactly if they name their scalars, and no other
tables are read from it. -/
theorem record_toJson_iff (s s' : Schema) :
    record.read .text (.ofJson s.toJson) = .ok s' ↔ s' = s ∧ s.NamesScalars := by
  have htext : ∀ t u : String, Outline.text (.ofJson (.string t)) = .ok u ↔ u = t ∧ True := by
    intro t u
    rw [Outline.ofJson, Outline.text, Except.ok.injEq, and_true, eq_comm]
  have hops := Outline.dictionary_ofJson_iff htext s.operations s'.operations
  have hinputs := Outline.dictionary_ofJson_iff
    (shape_toJson_iff InputField.ofContent?_toJson) s.inputs s'.inputs
  have hresults := Outline.dictionary_ofJson_iff
    (shape_toJson_iff asString?_string) s.results s'.results
  refine (record_read_object_iff _ _ _ s').trans ?_
  constructor
  · rintro ⟨ho, hi, hr⟩
    obtain ⟨hi, hnamed⟩ := hinputs.1 hi
    obtain ⟨hr, hnamed'⟩ := hresults.1 hr
    obtain ⟨ho, -⟩ := hops.1 ho
    obtain ⟨operations, inputs, results⟩ := s'
    obtain rfl : operations = s.operations := ho
    obtain rfl : inputs = s.inputs := hi
    obtain rfl : results = s.results := hr
    exact ⟨rfl, hnamed, hnamed'⟩
  · rintro ⟨rfl, hnamed⟩
    exact ⟨hops.2 ⟨rfl, fun _ _ => trivial⟩, hinputs.2 ⟨rfl, hnamed.inputs⟩,
      hresults.2 ⟨rfl, hnamed.results⟩⟩

/-! ### Tables and their text -/

theorem readsAs_typesJson (n : Nat) (types : Dictionary String) :
    ReadsAs (n + 1) (typesJson types).compactChars (typesJson types) := by
  rw [typesJson_eq]
  refine readsAs_object fun e he => ?_
  obtain ⟨e, -, rfl⟩ := List.mem_map.1 he
  exact readsAs_string n e.2

theorem readsAs_inputField (n : Nat) (x : InputField) :
    ReadsAs (n + 1) x.toJson.compactChars x.toJson := by
  cases x with
  | type name => exact readsAs_string (n + 1) name
  | arguments types => exact readsAs_typesJson n types

/-- The text of a shape reads as its document. -/
theorem readsAs_shape {φ : Type} {n : Nat} {field : φ → Json}
    (h : ∀ x, ReadsAs n (field x).compactChars (field x)) (x : TypeShape φ) :
    ReadsAs (n + 1) (x.toJson field).compactChars (x.toJson field) := by
  cases x with
  | enumeration => exact readsAs_string (n + 1) _
  | scalar name => exact readsAs_string (n + 1) _
  | fields fs =>
    rw [TypeShape.toJson_fields]
    refine readsAs_object fun e he => ?_
    obtain ⟨e, -, rfl⟩ := List.mem_map.1 he
    exact h e.2

/-- **The text of tables** reads as their document, which is nested four deep. -/
theorem readsAs_toJson (n : Nat) (s : Schema) :
    ReadsAs (n + 4) s.toJson.compactChars s.toJson := by
  refine readsAs_object fun e he => ?_
  simp only [List.mem_cons, List.not_mem_nil, or_false] at he
  obtain rfl | rfl | rfl := he
  · exact readsAs_typesJson (n + 2) s.operations
  · refine readsAs_object fun e he => ?_
    obtain ⟨e, -, rfl⟩ := List.mem_map.1 he
    exact readsAs_shape (readsAs_inputField n) e.2
  · refine readsAs_object fun e he => ?_
    obtain ⟨e, -, rfl⟩ := List.mem_map.1 he
    exact readsAs_shape (readsAs_string (n + 1)) e.2

/-- The text of tables is read exactly if they name their scalars, and as nothing else. -/
theorem read_toJson_iff (s s' : Schema) :
    read s.toJson.compact = .ok s' ↔ s' = s ∧ s.NamesScalars := by
  rw [read, compact, readWith_of_readsAs (readsAs_toJson 123 s), record_toJson_iff]

/-! ### Tables that are read -/

/-- A table is read, and put where it belongs. -/
theorem of_field {name : String} {o : Outline} {s s' : Schema}
    (h : record.field name o s = .ok s') :
    (name = "ops" ∧ ∃ x, o.dictionary Outline.text = .ok x ∧ s' = { s with operations := x }) ∨
      (name = "props" ∧ ∃ x, o.dictionary (shape InputField.ofContent?) = .ok x ∧
        s' = { s with inputs := x }) ∨
      name ≠ "ops" ∧ name ≠ "props" ∧
        ∃ x, o.dictionary (shape asString?) = .ok x ∧ s' = { s with results := x } := by
  simp only [record] at h
  split_ifs at h with hops hprops
  · obtain ⟨x, hx, h⟩ := bind_eq_ok.1 h
    cases h
    exact .inl ⟨hops, x, hx, rfl⟩
  · obtain ⟨x, hx, h⟩ := bind_eq_ok.1 h
    cases h
    exact .inr (.inl ⟨hprops, x, hx, rfl⟩)
  · obtain ⟨x, hx, h⟩ := bind_eq_ok.1 h
    cases h
    exact .inr (.inr ⟨hops, hprops, x, hx, rfl⟩)

theorem sets_inputs :
    record.Sets "props" (Outline.dictionary (shape InputField.ofContent?)) inputs where
  known := List.mem_cons_of_mem _ List.mem_cons_self
  own h := by
    obtain ⟨h, -⟩ | ⟨-, x, hx, rfl⟩ | ⟨-, h, -⟩ := of_field h
    · exact absurd h (by decide)
    · exact hx
    · exact absurd rfl h
  other _ hne h := by
    obtain ⟨-, x, -, rfl⟩ | ⟨h, -⟩ | ⟨-, -, x, -, rfl⟩ := of_field h
    · rfl
    · exact absurd h hne
    · rfl

theorem sets_results :
    record.Sets "returns" (Outline.dictionary (shape asString?)) results where
  known := List.mem_cons_of_mem _ (List.mem_cons_of_mem _ List.mem_cons_self)
  own h := by
    obtain ⟨h, -⟩ | ⟨h, -⟩ | ⟨-, -, x, hx, rfl⟩ := of_field h
    · exact absurd h (by decide)
    · exact absurd h (by decide)
    · exact hx
  other hknown hne h := by
    obtain ⟨-, x, -, rfl⟩ | ⟨-, x, -, rfl⟩ | ⟨hops, hprops, -⟩ := of_field h
    · rfl
    · rfl
    · -- the three tables are all there are
      simp only [record, tableNames, List.mem_cons, List.not_mem_nil, or_false] at hknown
      rcases hknown with h | h | h
      · exact absurd h hops
      · exact absurd h hprops
      · exact absurd h hne

/-- A table of shapes that was read, or left out, names its scalars. -/
theorem isNamed_of_isRead {φ : Type} {field? : Json → Option φ} {given : Option Outline}
    {d : Dictionary (TypeShape φ)}
    (h : IsRead (Outline.dictionary (shape field?)) given Dictionary.empty d) :
    ∀ e ∈ d.entries, e.2.IsNamed := by
  cases given with
  | none =>
    obtain rfl : d = Dictionary.empty := h
    exact List.forall_mem_nil _
  | some o => exact Outline.forall_of_dictionary isNamed_of_shape h

/-- **Tables that are read** name their scalars. -/
theorem namesScalars_of_read {text : String} {s : Schema} (h : read text = .ok s) :
    s.NamesScalars := by
  simp only [read, readWith, bind_eq_ok] at h
  obtain ⟨x, hx, hend⟩ := h
  obtain rfl : x = s := by
    split at hend <;> cases hend
    rfl
  have hnodup : record.fields.Nodup := by decide
  obtain ⟨_, ⟨⟩, hinputs⟩ := sets_inputs.of_read hnodup hx
  obtain ⟨_, ⟨⟩, hresults⟩ := sets_results.of_read hnodup hx
  exact ⟨isNamed_of_isRead hinputs, isNamed_of_isRead hresults⟩

/-- **Tables are read as they were written, or not at all.**  From the text of tables the same
tables are read, with all entries in their order, if every scalar has a name; if not, nothing is
read.  And tables that are read from any text name their scalars, so that they can be written and
read again. -/
theorem read_written_exactly :
    (∀ s s' : Schema, read s.toJson.compact = .ok s' ↔ s' = s ∧ s.NamesScalars) ∧
    ∀ (text : String) (s : Schema), read text = .ok s →
      s.NamesScalars ∧ read s.toJson.compact = .ok s := by
  refine ⟨read_toJson_iff, fun text s h => ?_⟩
  have hnamed := namesScalars_of_read h
  exact ⟨hnamed, (read_toJson_iff s s).2 ⟨rfl, hnamed⟩⟩

/-- A scalar without a name is written and then refused. -/
example : read "\x7b\"props\":\x7b\"t\":\"scalar.\"\x7d\x7d" =
    .error (.unfit (TypeShape.badMarker "scalar.")) := by
  decide +kernel

/-- Tables whose scalars and types have the names of markers and of tables. -/
def confusingTables : Schema :=
  ⟨.ofEntries [("ops", "scalar.")],
    .ofEntries [
      ("scalar.", .fields (.ofEntries [
        ("props", .arguments (.ofEntries [("z", "enum"), ("a", "scalar.enum")])),
        ("enum", .type "enum"), ("none", .arguments .empty)])),
      ("enum", .scalar "enum"), ("dot", .scalar "."), ("empty", .fields .empty)],
    .ofEntries [("returns", .enumeration), ("blank", .scalar " "),
      ("scalar.", .fields (.ofEntries [("returns", "scalar.")]))]⟩

/-- The same tables as an array, with an entry that is given twice. -/
def confusingText : String :=
  "[\x7b\"ops\": \"scalar.\"\x7d, " ++
    "\x7b\"scalar.\": \"enum\", \"enum\": \"scalar.enum\", \"dot\": \"scalar..\", " ++
    "\"empty\": \x7b\x7d, \"scalar.\": \x7b" ++
    "\"props\": \x7b\"z\": \"enum\", \"a\": \"scalar.enum\"\x7d, \"enum\": \"enum\", " ++
    "\"none\": \x7b\x7d\x7d\x7d, " ++
    "\x7b\"returns\": \"enum\", \"blank\": \"scalar. \", " ++
    "\"scalar.\": \x7b\"returns\": \"scalar.\"\x7d\x7d]"

/-- Such tables are read from the array, and then from their own text. -/
theorem read_written_confusing :
    read confusingText = .ok confusingTables ∧ confusingTables.NamesScalars ∧
      read confusingTables.toJson.compact = .ok confusingTables := by
  have h : read confusingText = .ok confusingTables := by decide +kernel
  exact ⟨h, read_written_exactly.2 _ _ h⟩

end Schema

end FieldQuery
