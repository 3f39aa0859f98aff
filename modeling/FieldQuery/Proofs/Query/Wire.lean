/-
**Values on the wire.**

Three ways of writing strings meet in the text of an argument: a name stands bare where an
enumeration is expected, a string stands between quotes, and a scalar with a codec may put the text
of a whole document between quotes, with all that was quoted in it quoted once more.  Which of them
it is depends on the position alone, and it changes from one part of a value to the next.  A server
knows nothing of this.  It reads one literal, and what it reads is the value on the wire: what the
codec of a scalar sends, and everywhere else the value itself.

Main definitions:

* `StockCodec.wire?` — what a codec sends for a document;
* `StockCodec.Bound` — scalars are bound to stock codecs, and to nothing else;
* `Argument.wire?` — what is sent for a value at a position.

Main results:

* `StockCodec.writtenAs_of_encode` — what a codec writes is what it sends;
* `Argument.writtenAs_wire?` — a value whose demands can be met is written as what is sent for it;
* `Argument.readValue_of_text` — **the text of an argument is one literal**, and is read as what is
  sent for the argument.
-/

import FieldQuery.Proofs.Query.Meaning
import FieldQuery.Scalar.Stock

set_option autoImplicit false

namespace FieldQuery

/-- A text is that of a value on the wire, and the value can be read. -/
def QueryValue.WrittenAs (text : String) (sent : Option QueryValue) : Prop :=
  ∃ w, sent = some w ∧ w.Readable ∧ text = w.text

/-! ### Numbers between quotes -/

namespace Grammar

/-- Digits and the marks of a numeral are all that stands in one. -/
theorem mem_spelled {negative : Bool} {whole : List Char} {fraction : Option (List Char)}
    {exponent : Option (Bool × List Char)} (h : WellSpelled whole fraction exponent) {c : Char}
    (hc : c ∈ spelled negative whole fraction exponent) :
    c.isDigit = true ∨ c ∈ ['-', '+', '.', 'e'] := by
  simp only [spelled, List.mem_append] at hc
  rcases hc with hc | hc | hc | hc
  · cases negative <;> simp_all
  · exact .inl (h.whole_digits c hc)
  · cases fraction with
    | none => cases hc
    | some fs =>
      rcases List.mem_cons.1 hc with rfl | hc
      · exact .inr (by decide)
      · exact .inl ((h.fraction_digits fs rfl).1 c hc)
  · cases exponent with
    | none => cases hc
    | some x =>
      rcases List.mem_cons.1 hc with rfl | hc
      · exact .inr (by decide)
      rcases List.mem_cons.1 hc with rfl | hc
      · cases x.1 <;> exact .inr (by decide)
      · exact .inl ((h.exponent_digits x rfl).1 c hc)

/-- A digit or a mark of a numeral needs no escape. -/
theorem escapedChar_of_numeral {c : Char} (h : c.isDigit = true ∨ c ∈ ['-', '+', '.', 'e']) :
    Json.escapedChar c = [c] := by
  rcases h with h | h
  · simp only [Char.isDigit, Bool.and_eq_true, decide_eq_true_eq, ge_iff_le] at h
    have hge : 48 ≤ c.toNat := UInt32.le_iff_toNat_le.1 h.1
    have hle : c.toNat ≤ 57 := UInt32.le_iff_toNat_le.1 h.2
    refine Json.escapedChar_of_plain ?_ ?_ (by omega)
    · rintro rfl
      exact absurd hge (by decide)
    · rintro rfl
      exact absurd hle (by decide)
  · simp only [List.mem_cons, List.not_mem_nil, or_false] at h
    rcases h with rfl | rfl | rfl | rfl <;> rfl

/-- The text of a number is quoted as it stands. -/
theorem quotedChars_toText (n : Number) : Json.quotedChars n.toText = '"' :: n.toText ++ ['"'] := by
  obtain ⟨negative, whole, fraction, exponent, htext, hwell, -⟩ := toText_eq_spelled n
  have hplain : n.toText.flatMap Json.escapedChar = n.toText := by
    have hmap : n.toText.flatMap Json.escapedChar = n.toText.flatMap fun c => [c] := by
      refine List.flatMap_congr fun c hc => escapedChar_of_numeral ?_
      rw [htext] at hc
      exact mem_spelled hwell hc
    rw [hmap, List.flatMap_singleton']
  rw [Json.quotedChars, hplain]

end Grammar

/-! ### What a codec sends -/

namespace StockCodec

open QueryValue

mutual

/-- What is sent for numbers as strings: the text of a number, and strings, nulls and lists of these
as they are.  Nothing else can be sent. -/
def numericWire? : Json → Option QueryValue
  | .number n => some (.string (String.ofList n.toText))
  | .string s => some (.string s)
  | .null => some .null
  | .array items => (numericWires? items).map .list
  | _ => none

/-- What is sent for the elements of a list of numbers. -/
def numericWires? : List Json → Option (List QueryValue)
  | [] => some []
  | v :: r => (numericWire? v).bind fun w => (numericWires? r).map fun ws => w :: ws

end

/-- What a codec sends for a document. -/
def wire? : StockCodec → Json → Option QueryValue
  | numericString, v => numericWire? v
  | jsonString, v => some (.string v.compact)

mutual

theorem writtenAs_of_encodeNumeric : ∀ {v : Json} {text : String}, encodeNumeric v = .ok text →
    WrittenAs text (numericWire? v)
  | .number n, _, h => by
    cases h
    refine ⟨_, rfl, trivial, ?_⟩
    rw [QueryValue.text, Json.quote, String.toList_ofList, Grammar.quotedChars_toText]
  | .string s, _, h => by
    cases h
    exact ⟨_, rfl, trivial, rfl⟩
  | .null, _, h => by
    cases h
    exact ⟨_, rfl, trivial, rfl⟩
  | .array items, _, h => by
    rw [encodeNumeric] at h
    cases htexts : encodeNumerics items with
    | error e =>
      rw [htexts] at h
      cases h
    | ok texts =>
      rw [htexts] at h
      cases h
      obtain ⟨ws, hws, hreadable, rfl⟩ := writtenAs_of_encodeNumerics htexts
      exact ⟨.list ws, by rw [numericWire?, hws]; rfl, hreadable, rfl⟩
  | .bool _, _, h => by cases h
  | .object _, _, h => by cases h

theorem writtenAs_of_encodeNumerics : ∀ {vs : List Json} {texts : List String},
    encodeNumerics vs = .ok texts →
      ∃ ws, numericWires? vs = some ws ∧ ItemsReadable ws ∧ texts = itemTexts ws
  | [], _, h => by
    cases h
    exact ⟨[], rfl, trivial, rfl⟩
  | v :: r, _, h => by
    rw [encodeNumerics] at h
    cases htext : encodeNumeric v with
    | error e =>
      rw [htext] at h
      cases h
    | ok text =>
      cases htexts : encodeNumerics r with
      | error e =>
        rw [htext, htexts] at h
        cases h
      | ok texts =>
        rw [htext, htexts] at h
        cases h
        obtain ⟨w, hw, hreadable, rfl⟩ := writtenAs_of_encodeNumeric htext
        obtain ⟨ws, hws, hreadables, rfl⟩ := writtenAs_of_encodeNumerics htexts
        exact ⟨w :: ws, by rw [numericWires?, hw, hws]; rfl, ⟨hreadable, hreadables⟩, rfl⟩

end

/-- **What a codec writes** is what it sends. -/
theorem writtenAs_of_encode {c : StockCodec} {f : Json → Except CoderError String} {v : Json}
    {text : String} (hf : c.coder.encode = some f) (h : f v = .ok text) :
    WrittenAs text (c.wire? v) := by
  cases c with
  | numericString =>
    cases hf
    exact writtenAs_of_encodeNumeric h
  | jsonString =>
    cases hf
    cases h
    exact ⟨_, rfl, trivial, rfl⟩

/-! ### Scalars that are bound to codecs -/

/-- Scalars are bound to stock codecs, and to nothing else. -/
def Bound (coders : Coders) (codecs : String → Option StockCodec) : Prop :=
  ∀ name, coders.get? name = (codecs name).map coder

theorem bound_empty : Bound .empty fun _ => none := fun _ => rfl

/-- One scalar more that is bound to a codec. -/
theorem Bound.withCoder {coders : Coders} {codecs : String → Option StockCodec}
    (h : Bound coders codecs) (name : String) (c : StockCodec) :
    Bound (coders.withCoder name c.coder) fun x => if name = x then some c else codecs x := by
  intro x
  rw [Coders.withCoder, Dictionary.get?_insert]
  by_cases hx : name = x
  · simp [hx]
  · simp [hx, h x]

/-- Every codec has an encoder. -/
theorem exists_encode (c : StockCodec) : ∃ f, c.coder.encode = some f := by
  cases c <;> exact ⟨_, rfl⟩

end StockCodec

/-! ### What is sent for an argument -/

namespace Argument

open QueryValue

variable (schema : Schema) (codecs : String → Option StockCodec)

/-- The codec at a position, where it is that of a scalar with one. -/
def codecAt? (path : SchemaPath) : Option StockCodec :=
  match schema.classify path with
  | .scalar name => codecs name
  | _ => none

/-- What the codec at a position sends for a value, or what the value is made of by itself. -/
def wireOr? (path : SchemaPath) (v : Json) (parts : Option QueryValue) : Option QueryValue :=
  match codecAt? schema codecs path with
  | some c => c.wire? v
  | none => parts

mutual

/-- What is sent for a value at a position: a placeholder is its variable, a scalar with a codec is
what the codec sends, and all else is sent part by part. -/
def wire? (path : SchemaPath) : Json → Option QueryValue
  | .string s =>
    match Variable.ofText s with
    | .error _ => none
    | .ok (some x) => some (.variable x.name)
    | .ok none => wireOr? schema codecs path (.string s) (some (stringValue schema path s))
  | .array items => wireOr? schema codecs path (.array items) ((wires? path items).map .list)
  | .object members =>
    wireOr? schema codecs path (.object members) ((memberWires? path members).map .object)
  | .null => wireOr? schema codecs path .null (some .null)
  | .bool b => wireOr? schema codecs path (.bool b) (some (.bool b))
  | .number n => wireOr? schema codecs path (.number n) (some (.number n))

/-- What is sent for elements, all at one position. -/
def wires? (path : SchemaPath) : List Json → Option (List QueryValue)
  | [] => some []
  | v :: r => (wire? path v).bind fun w => (wires? path r).map fun ws => w :: ws

/-- What is sent for entries, each at its position below. -/
def memberWires? (path : SchemaPath) : List (String × Json) → Option (List (String × QueryValue))
  | [] => some []
  | (k, v) :: r =>
    (wire? (path.argument k) v).bind fun w => (memberWires? path r).map fun ws => (k, w) :: ws

end

variable {schema codecs} {coders : Coders}

theorem encoderAt?_of_no_codec (hbound : StockCodec.Bound coders codecs) {path : SchemaPath}
    (h : codecAt? schema codecs path = none) : encoderAt? schema coders path = none := by
  unfold codecAt? at h
  unfold encoderAt?
  cases hclassify : schema.classify path with
  | scalar name =>
    have hcodec : codecs name = none := by rwa [hclassify] at h
    dsimp only
    rw [Coders.encoder?, hbound name, hcodec]
    rfl
  | _ => rfl

theorem encoderAt?_of_codec (hbound : StockCodec.Bound coders codecs) {path : SchemaPath}
    {c : StockCodec} (h : codecAt? schema codecs path = some c) :
    ∃ name f, encoderAt? schema coders path = some (name, f) ∧ coders.encoder? name = some f ∧
      c.coder.encode = some f := by
  unfold codecAt? at h
  unfold encoderAt?
  cases hclassify : schema.classify path with
  | scalar name =>
    have hcodec : codecs name = some c := by rwa [hclassify] at h
    obtain ⟨f, hf⟩ := c.exists_encode
    have hencoder : coders.encoder? name = some f := by
      rw [Coders.encoder?, hbound name, hcodec]
      exact hf
    dsimp only
    rw [hencoder]
    exact ⟨name, f, rfl, hencoder, hf⟩
  | enumeration =>
    rw [hclassify] at h
    cases h
  | neither =>
    rw [hclassify] at h
    cases h

end Argument

/-! ### Demands that can be met -/

namespace Demand

/-- The demand can be met, after some declarations. -/
def CanBeMet (coders : Coders) (d : Demand) : Prop := ∃ t t', d.meet coders t = .ok t'

theorem canBeMet_of_replay {coders : Coders} {ds : List Demand} {t t' : VariableTable}
    (h : replay coders ds t = .ok t') : ∀ d ∈ ds, d.CanBeMet coders := by
  induction ds generalizing t with
  | nil => nofun
  | cons d r ih =>
    rw [replay] at h
    cases hd : d.meet coders t with
    | error e =>
      rw [hd] at h
      cases h
    | ok t₁ =>
      rw [hd] at h
      exact List.forall_mem_cons.2 ⟨⟨t, t₁, hd⟩, ih h⟩

/-- What an encoder was asked for, it has given. -/
theorem CanBeMet.exists_text {coders : Coders} {scalar : String} {v : Json}
    {f : Json → Except CoderError String} (h : (encoding scalar v).CanBeMet coders)
    (hf : coders.encoder? scalar = some f) :
    ∃ text, f v = .ok text ∧ (encoding scalar v).value coders = .verbatim text := by
  obtain ⟨t, t', hmeet⟩ := h
  cases hv : f v with
  | error e => simp [meet, Coders.encode?, hf, hv, Except.map, Except.mapError] at hmeet
  | ok text => exact ⟨text, rfl, by simp [value, Coders.encode?, hf, hv, Except.map]⟩

/-- A marked string whose demand can be met has a variable. -/
theorem CanBeMet.exists_variable {coders : Coders} {s : String}
    (h : (marked s).CanBeMet coders) (hs : Argument.isMarked s = true) :
    ∃ x, Variable.ofText s = .ok (some x) := by
  refine (Argument.ofText_of_isMarked hs).resolve_right fun hbad => ?_
  obtain ⟨t, t', hmeet⟩ := h
  simp [meet, hbad] at hmeet

end Demand

namespace Argument

open QueryValue

/-! ### Writing and reading -/

variable {schema : Schema} {codecs : String → Option StockCodec} {coders : Coders}

/-- A value that is no placeholder is written by the codec of its position, or part by part, and
either way as what is sent. -/
theorem writtenAs_wireOr? (hbound : StockCodec.Bound coders codecs) {path : SchemaPath} {v : Json}
    {q : QueryValue} {sent : Option QueryValue} {ds : List Demand}
    (hv : isMarkedString v = false)
    (hmet : ∀ d ∈ (demand? schema coders path v).elim ds fun d => [d], d.CanBeMet coders)
    (hparts : (∀ d ∈ ds, d.CanBeMet coders) → WrittenAs q.text sent) :
    WrittenAs ((whole? schema coders path v).getD q).text (wireOr? schema codecs path v sent) := by
  rw [demand?_of_not_marked path v hv] at hmet
  rw [whole?, demand?_of_not_marked path v hv, wireOr?]
  cases hcodec : codecAt? schema codecs path with
  | none =>
    rw [encoderAt?_of_no_codec hbound hcodec] at hmet ⊢
    exact hparts hmet
  | some c =>
    obtain ⟨name, f, hencoder, hname, hf⟩ := encoderAt?_of_codec hbound hcodec
    rw [hencoder] at hmet ⊢
    obtain ⟨text, htext, hvalue⟩ := (hmet _ List.mem_cons_self).exists_text hname
    rw [Option.map_some, Option.map_some, Option.getD_some, hvalue]
    exact StockCodec.writtenAs_of_encode hf htext

theorem writtenAs_stringValue {path : SchemaPath} {s : String} (hs : Variable.ofText s = .ok none)
    (h : isLegibleString schema path s = true) :
    WrittenAs (stringValue schema path s).text (some (stringValue schema path s)) := by
  refine ⟨_, rfl, ?_, rfl⟩
  rw [isLegibleString, hs] at h
  unfold stringValue
  split
  · rename_i hclassify
    simpa [hclassify, Readable] using h
  · trivial

mutual

/-- **A value whose demands can be met** is written as what is sent for it. -/
theorem writtenAs_wire? (hbound : StockCodec.Bound coders codecs) (path : SchemaPath) :
    ∀ v : Json, isLegible schema path v = true →
      (∀ d ∈ demands schema coders path v, d.CanBeMet coders) →
        WrittenAs (value schema coders path v).text (wire? schema codecs path v)
  | .null, _, hmet => writtenAs_wireOr? hbound rfl hmet fun _ => ⟨_, rfl, trivial, rfl⟩
  | .bool b, _, hmet => writtenAs_wireOr? hbound rfl hmet fun _ => ⟨_, rfl, trivial, rfl⟩
  | .number n, _, hmet => writtenAs_wireOr? hbound rfl hmet fun _ => ⟨_, rfl, trivial, rfl⟩
  | .string s, h, hmet => by
    rw [isLegible] at h
    cases hs : isMarked s with
    | false =>
      have hordinary := ofText_of_not_isMarked hs
      rw [wire?, hordinary]
      exact writtenAs_wireOr? hbound hs hmet fun _ => writtenAs_stringValue hordinary h
    | true =>
      have hdemand : demand? schema coders path (.string s) = some (.marked s) := by
        simp [demand?, hs]
      have hmarked : (Demand.marked s).CanBeMet coders := hmet _ (by simp [demands, hdemand])
      obtain ⟨x, hx⟩ := hmarked.exists_variable hs
      rw [isLegibleString, hx] at h
      refine ⟨.variable x.name, by rw [wire?, hx], h, ?_⟩
      rw [value, whole?, hdemand, Option.map_some, Option.getD_some, Demand.value, hx]
  | .array items, h, hmet => by
    refine writtenAs_wireOr? hbound rfl hmet fun hitems => ?_
    obtain ⟨ws, hws, hreadable, htexts⟩ := writtenAs_wires? hbound path items h hitems
    exact ⟨.list ws, by rw [hws]; rfl, hreadable, by rw [QueryValue.text, htexts]; rfl⟩
  | .object members, h, hmet => by
    refine writtenAs_wireOr? hbound rfl hmet fun hmembers => ?_
    obtain ⟨ws, hws, hreadable, htexts⟩ := writtenAs_memberWires? hbound path members h hmembers
    exact ⟨.object ws, by rw [hws]; rfl, hreadable, by rw [QueryValue.text, htexts]; rfl⟩

theorem writtenAs_wires? (hbound : StockCodec.Bound coders codecs) (path : SchemaPath) :
    ∀ vs : List Json, itemsLegible schema path vs = true →
      (∀ d ∈ itemDemands schema coders path vs, d.CanBeMet coders) →
        ∃ ws, wires? schema codecs path vs = some ws ∧ ItemsReadable ws ∧
          QueryValue.itemTexts (itemValues schema coders path vs) = QueryValue.itemTexts ws
  | [], _, _ => ⟨[], rfl, trivial, rfl⟩
  | v :: r, h, hmet => by
    rw [itemsLegible, Bool.and_eq_true] at h
    rw [itemDemands, List.forall_mem_append] at hmet
    obtain ⟨w, hw, hreadable, htext⟩ := writtenAs_wire? hbound path v h.1 hmet.1
    obtain ⟨ws, hws, hreadables, htexts⟩ := writtenAs_wires? hbound path r h.2 hmet.2
    refine ⟨w :: ws, by rw [wires?, hw, hws]; rfl, ⟨hreadable, hreadables⟩, ?_⟩
    rw [itemValues, QueryValue.itemTexts, QueryValue.itemTexts, htext, htexts]

theorem writtenAs_memberWires? (hbound : StockCodec.Bound coders codecs) (path : SchemaPath) :
    ∀ es : List (String × Json), membersLegible schema path es = true →
      (∀ d ∈ memberDemands schema coders path es, d.CanBeMet coders) →
        ∃ ws, memberWires? schema codecs path es = some ws ∧ EntriesReadable ws ∧
          QueryValue.entryTexts (memberValues schema coders path es) = QueryValue.entryTexts ws
  | [], _, _ => ⟨[], rfl, trivial, rfl⟩
  | (k, v) :: r, h, hmet => by
    rw [membersLegible, Bool.and_eq_true, Bool.and_eq_true] at h
    rw [memberDemands, List.forall_mem_append] at hmet
    obtain ⟨w, hw, hreadable, htext⟩ :=
      writtenAs_wire? hbound (path.argument k) v h.1.2 hmet.1
    obtain ⟨ws, hws, hreadables, htexts⟩ := writtenAs_memberWires? hbound path r h.2 hmet.2
    refine ⟨(k, w) :: ws, by rw [memberWires?, hw, hws]; rfl, ⟨h.1.1, hreadable, hreadables⟩, ?_⟩
    rw [memberValues, QueryValue.entryTexts, QueryValue.entryTexts, htext, htexts]

end

/-- **The text of an argument is one literal**, and is read as what is sent for the argument.  Its
scalars may have stock codecs; all that becomes a name must be one. -/
theorem readValue_of_text (hbound : StockCodec.Bound coders codecs) {path : SchemaPath} {v : Json}
    {t t' : VariableTable} {written : String} (hlegible : isLegible schema path v = true)
    (h : (text schema coders path v).result t = .ok (written, t')) :
    ∃ w, wire? schema codecs path v = some w ∧ Grammar.readValue written = some w := by
  rw [result_text] at h
  cases hreplay : Demand.replay coders (demands schema coders path v) t with
  | error e =>
    rw [hreplay] at h
    cases h
  | ok t₁ =>
    rw [hreplay] at h
    cases h
    obtain ⟨w, hw, hreadable, htext⟩ :=
      writtenAs_wire? hbound path v hlegible (Demand.canBeMet_of_replay hreplay)
    exact ⟨w, hw, by rw [htext, Grammar.readValue_text hreadable]⟩

/-- A schema in which measurements have a unit, an amount, a note of any form and tags. -/
def measureSchema : Schema :=
  ⟨.ofEntries [("mutation", "Mutation")],
    .ofEntries [
      ("Mutation", .fields (.ofEntries [("measure", .arguments (.ofEntries [("of", "Measure")]))])),
      ("Measure", .fields (.ofEntries
        [("unit", .type "Unit"), ("amounts", .type "numeric"), ("note", .type "jsonb"),
          ("tags", .type "String")])),
      ("Unit", .enumeration), ("numeric", .scalar "numeric"), ("jsonb", .scalar "jsonb")],
    .empty⟩

/-- Amounts are sent as strings, and notes as strings that hold their text. -/
def measureCoders : Coders :=
  Coders.withCoder (Coders.withCoder .empty "numeric" StockCodec.numericString.coder) "jsonb"
    StockCodec.jsonString.coder

/-- The codecs that these coders are those of. -/
def measureCodecs (name : String) : Option StockCodec :=
  if "jsonb" = name then some .jsonString
  else if "numeric" = name then some .numericString
  else none

/-- A note. -/
def note : Json := .object [("said", .array [.string "a \"note\"", .bool true])]

/-- The bits of one and a half are those of a number. -/
theorem one_and_a_half_finite : 4609434218613702656 < Binary64.finiteCount := by
  decide

/-- A measurement whose parts are written in every way there is. -/
def measurement : Json :=
  .object [("unit", .array [.string "METRE", .string "$qsel:u::$type::Unit!"]),
    ("amounts", .array [.number (.double ⟨false, ⟨4609434218613702656, one_and_a_half_finite⟩⟩),
      .string "$qsel:n", .null]),
    ("note", note), ("tags", .string "METRE")]

/-- The place of a measurement among the arguments of the mutation. -/
def measurePath : SchemaPath := ((SchemaPath.field [] "mutation").argument "measure").argument "of"

/-- The unit is a name, the amounts are strings, the note is a string that holds its text, and the
tag is a string although it is spelled like a unit.  What looks like a placeholder among the amounts
is an amount. -/
theorem readValue_measurement :
    StockCodec.Bound measureCoders measureCodecs ∧
    isLegible measureSchema measurePath measurement = true ∧
    ∃ written,
      (text measureSchema measureCoders measurePath measurement).result .empty =
        .ok (written, .ofEntries [("u", "Unit!")]) ∧
      written = "\x7bunit: [METRE, $u], amounts: [\"1.5\", \"$qsel:n\", null], " ++
        "note: \"\x7b\\\"said\\\":[\\\"a \\\\\\\"note\\\\\\\"\\\",true]\x7d\", tags: \"METRE\"\x7d" ∧
      Grammar.readValue written = some (.object
        [("unit", .list [.enumeration "METRE", .variable "u"]),
          ("amounts", .list [.string "1.5", .string "$qsel:n", .null]),
          ("note", .string note.compact), ("tags", .string "METRE")]) := by
  have hbound : StockCodec.Bound measureCoders measureCodecs :=
    (StockCodec.bound_empty.withCoder "numeric" .numericString).withCoder "jsonb" .jsonString
  have hlegible : isLegible measureSchema measurePath measurement = true := by decide +kernel
  have h : (text measureSchema measureCoders measurePath measurement).result .empty =
      .ok ("\x7bunit: [METRE, $u], amounts: [\"1.5\", \"$qsel:n\", null], " ++
          "note: \"\x7b\\\"said\\\":[\\\"a \\\\\\\"note\\\\\\\"\\\",true]\x7d\", tags: \"METRE\"\x7d",
        .ofEntries [("u", "Unit!")]) := by
    decide +kernel
  obtain ⟨w, hw, hread⟩ := readValue_of_text hbound hlegible h
  have hwire : wire? measureSchema measureCodecs measurePath measurement = some (.object
      [("unit", .list [.enumeration "METRE", .variable "u"]),
        ("amounts", .list [.string "1.5", .string "$qsel:n", .null]),
        ("note", .string note.compact), ("tags", .string "METRE")]) := rfl
  rw [hwire] at hw
  cases hw
  exact ⟨hbound, hlegible, _, h, rfl, hread⟩

end Argument

end FieldQuery
