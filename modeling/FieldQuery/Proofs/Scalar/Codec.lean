/-
**The stock codecs undo what they do.**

A codec is used at two ends.  What it encodes is written into a query, so it has to be the text of
some document; the other side reads that document, and what it sends back stands in a response,
where it is decoded at the position of the scalar.  A codec is consistent if a value that has gone
all this way is what it was.

The codec of documents writes text into text: the string it makes is the text of the value, and the
text of that string has every quote and backslash in it escaped again.  Reading undoes one layer and
decoding the other.

The codec of numbers is no inverse pair by itself.  Encoding goes through arrays; decoding does not,
and the array of strings that comes back would be left as it is.  It is the pass over the response
that goes through the array and decodes element by element.  Not all values can be encoded: one of
them in an array, however deep, is what the whole fails with, and if there are several the first is.

Main definitions:

* `Json.IsNumeric` — null, whole numbers, and arrays of such;
* `Json.asSent` — a value as it is sent, with strings for its numbers;
* `Json.elements` — the values in nested arrays, in their order.

Main results:

* `StockCodec.jsonString_consistent` — **the codec of documents** is consistent;
* `StockCodec.numericString_consistent` — **the codec of numbers** is consistent, and fails with the
  first boolean or object.
-/

import FieldQuery.Proofs.Json.Document
import FieldQuery.Proofs.Query.Wire
import FieldQuery.Proofs.Response.Single
import FieldQuery.Scalar.Stock

set_option autoImplicit false

namespace FieldQuery

/-! ### Values of the codec of numbers -/

namespace Json

mutual

/-- Null, a whole number, or an array of such. -/
def IsNumeric : Json → Prop
  | null => True
  | number (.whole _) => True
  | array items => ItemsAreNumeric items
  | _ => False

/-- `IsNumeric` of every element. -/
def ItemsAreNumeric : List Json → Prop
  | [] => True
  | v :: r => IsNumeric v ∧ ItemsAreNumeric r

end

mutual

/-- A value as it is sent: strings take the place of its numbers. -/
def asSent : Json → Json
  | number n => string (String.ofList n.toText)
  | array items => array (itemsAsSent items)
  | v => v

/-- The elements as they are sent. -/
def itemsAsSent : List Json → List Json
  | [] => []
  | v :: r => asSent v :: itemsAsSent r

end

mutual

/-- The values in nested arrays, in their order; a value that is no array is its only element. -/
def elements : Json → List Json
  | array items => itemsElements items
  | v => [v]

/-- The elements of several values. -/
def itemsElements : List Json → List Json
  | [] => []
  | v :: r => elements v ++ itemsElements r

end

/-- A boolean or an object. -/
def isBoolOrObject : Json → Bool
  | bool _ => true
  | object _ => true
  | _ => false

mutual

theorem hasDistinctNames_asSent : ∀ {v : Json}, v.IsNumeric → v.asSent.HasDistinctNames
  | .null, _ => by simp [asSent, HasDistinctNames]
  | .number _, _ => by simp [asSent, HasDistinctNames]
  | .array items, h => by
    rw [asSent, HasDistinctNames]
    exact allHaveDistinctNames_asSent (by rwa [IsNumeric] at h)
  | .bool _, h => by simp [IsNumeric] at h
  | .string _, h => by simp [IsNumeric] at h
  | .object _, h => by simp [IsNumeric] at h

theorem allHaveDistinctNames_asSent : ∀ {vs : List Json}, ItemsAreNumeric vs →
    AllHaveDistinctNames (itemsAsSent vs)
  | [], _ => by simp [itemsAsSent, AllHaveDistinctNames]
  | v :: r, h => by
    rw [ItemsAreNumeric] at h
    rw [itemsAsSent, AllHaveDistinctNames]
    exact ⟨hasDistinctNames_asSent h.1, allHaveDistinctNames_asSent h.2⟩

end

end Json

namespace StockCodec

open Json

/-! ### Encoding numbers -/

mutual

/-- Null, whole numbers and arrays of them are written as what they are sent as. -/
theorem exists_encodeNumeric : ∀ {v : Json} (limit : Nat), v.IsNumeric → v.depth ≤ limit →
    ∃ t, encodeNumeric v = .ok t ∧ ReadsAs limit t.toList v.asSent
  | .null, limit, _, _ => ⟨"null", rfl, readsAs_null limit⟩
  | .number (.whole n), limit, _, _ => by
    refine ⟨_, rfl, ?_⟩
    have hread := readsAs_string limit (String.ofList (Number.whole n).toText)
    rw [String.toList_ofList, Grammar.quotedChars_toText] at hread
    rw [String.toList_ofList]
    exact hread
  | .array items, limit, h, hdepth => by
    rw [depth] at hdepth
    obtain ⟨limit, rfl⟩ := Nat.exists_eq_add_of_le' (Nat.le_of_add_left_le hdepth)
    obtain ⟨ts, hts, hread⟩ := exists_encodeNumerics limit
      (by rwa [IsNumeric] at h) (Nat.le_of_succ_le_succ hdepth)
    refine ⟨_, by rw [encodeNumeric, hts]; rfl, ?_⟩
    rw [String.toList_append, String.toList_append, String.toList_intercalate, asSent]
    have hblank : ∀ c ∈ [' '], isGap c = true := List.forall_mem_singleton.2 rfl
    exact readsAs_array hblank hread
  | .number (.double _), _, h, _ => by simp [IsNumeric] at h
  | .bool _, _, h, _ => by simp [IsNumeric] at h
  | .string _, _, h, _ => by simp [IsNumeric] at h
  | .object _, _, h, _ => by simp [IsNumeric] at h

theorem exists_encodeNumerics : ∀ {vs : List Json} (limit : Nat), ItemsAreNumeric vs →
    itemsDepth vs ≤ limit → ∃ ts, encodeNumerics vs = .ok ts ∧
      List.Forall₂ (ReadsAs limit) (ts.map String.toList) (itemsAsSent vs)
  | [], _, _, _ => ⟨[], rfl, .nil⟩
  | v :: r, limit, h, hdepth => by
    rw [ItemsAreNumeric] at h
    rw [itemsDepth] at hdepth
    obtain ⟨t, ht, hread⟩ := exists_encodeNumeric limit h.1 (by omega)
    obtain ⟨ts, hts, hreads⟩ := exists_encodeNumerics limit h.2 (by omega)
    refine ⟨t :: ts, ?_, .cons hread hreads⟩
    rw [encodeNumerics, ht, hts]
    rfl

end

mutual

/-- Encoding fails with the first boolean or object. -/
theorem encodeNumeric_eq_error_iff : ∀ {v : Json} {e : CoderError},
    encodeNumeric v = .error e ↔
      (v.elements.find? isBoolOrObject).map (fun u => .invalidValue u.compact) = some e
  | .null, e => by simp [encodeNumeric, elements, isBoolOrObject]
  | .number _, e => by simp [encodeNumeric, elements, isBoolOrObject]
  | .string _, e => by simp [encodeNumeric, elements, isBoolOrObject]
  | .bool b, e => by simp [encodeNumeric, elements, isBoolOrObject]
  | .object _, e => by simp [encodeNumeric, elements, isBoolOrObject]
  | .array items, e => by
    rw [elements, ← encodeNumerics_eq_error_iff, encodeNumeric]
    cases encodeNumerics items <;> simp [bind, Except.bind, pure, Except.pure]

theorem encodeNumerics_eq_error_iff : ∀ {vs : List Json} {e : CoderError},
    encodeNumerics vs = .error e ↔
      ((itemsElements vs).find? isBoolOrObject).map (fun u => .invalidValue u.compact) = some e
  | [], e => by simp [encodeNumerics, itemsElements]
  | v :: r, e => by
    rw [encodeNumerics, itemsElements, List.find?_append]
    cases hfirst : v.elements.find? isBoolOrObject with
    | some u =>
      have hv : encodeNumeric v = .error (.invalidValue u.compact) := by
        rw [encodeNumeric_eq_error_iff, hfirst]
        rfl
      simp [hv, bind, Except.bind]
    | none =>
      have hv : ∀ e, encodeNumeric v ≠ .error e := by
        intro e
        rw [Ne, encodeNumeric_eq_error_iff, hfirst]
        nofun
      rw [Option.none_or, ← encodeNumerics_eq_error_iff]
      cases htext : encodeNumeric v with
      | error e' => exact absurd htext (hv e')
      | ok t => cases encodeNumerics r <;> simp [bind, Except.bind, pure, Except.pure]

end

/-! ### Decoding what was sent -/

theorem decodeNumeric_toText (n : WideInt) :
    decodeNumeric (.string (String.ofList n.toText)) = .ok (.number (.whole n)) := by
  simp [decodeNumeric, numberOfText?_toText]

section Response

variable {paths : ScalarPaths} {coders : Coders} {p : ResponsePath} {scalar : String}

mutual

/-- A value that was sent is decoded to what it was, element by element. -/
theorem decodeAt_asSent (h : paths.decoderAt? coders p = some (scalar, decodeNumeric)) :
    ∀ {v : Json}, v.IsNumeric → paths.decodeAt coders p v.asSent = .ok v
  | .null, _ => by simp [asSent, ScalarPaths.decodeAt, h, ScalarPaths.decodeWith]; rfl
  | .number (.whole n), _ => by
    simp [asSent, ScalarPaths.decodeAt, h, ScalarPaths.decodeWith, Number.toText,
      decodeNumeric_toText, Except.mapError]
  | .array items, hv => by
    rw [asSent, ScalarPaths.decodeAt, decodeItems_asSent h (by rwa [IsNumeric] at hv)]
    rfl
  | .number (.double _), h => by simp [IsNumeric] at h
  | .bool _, h => by simp [IsNumeric] at h
  | .string _, h => by simp [IsNumeric] at h
  | .object _, h => by simp [IsNumeric] at h

theorem decodeItems_asSent (h : paths.decoderAt? coders p = some (scalar, decodeNumeric)) :
    ∀ {vs : List Json}, ItemsAreNumeric vs → paths.decodeItems coders p (itemsAsSent vs) = .ok vs
  | [], _ => rfl
  | v :: r, hv => by
    rw [ItemsAreNumeric] at hv
    rw [itemsAsSent, ScalarPaths.decodeItems, decodeAt_asSent h hv.1, decodeItems_asSent h hv.2]
    rfl

end

end Response

/-! ### The way through a query and a response -/

section Consistent

variable {coders : Coders} {scalar : String} {c : StockCodec}

theorem encode?_of_get? (h : coders.get? scalar = some c.coder)
    {f : Json → Except CoderError String} (hf : c.coder.encode = some f) (v : Json) :
    coders.encode? scalar v = (f v).map some := by
  rw [Coders.encode?, Coders.encoder?, h, Option.bind_some, hf]

theorem decoderAt?_of_get? (h : coders.get? scalar = some c.coder)
    {f : Json → Except CoderError Json} (hf : c.coder.decode = some f) (p : ResponsePath) :
    coders.decoder? scalar = some f ∧
      ScalarPaths.decoderAt? [(p, scalar)] coders p = some (scalar, f) := by
  have hdecoder : coders.decoder? scalar = some f := by
    rw [Coders.decoder?, h, Option.bind_some, hf]
  refine ⟨hdecoder, ?_⟩
  rw [ScalarPaths.decoderAt?_single, if_pos rfl, hdecoder]
  rfl

/-- **The codec of documents is consistent.**  A document that can be read again is encoded as a
string that holds its text, which is decoded to the document, both by itself and in a response that
has it at the one position of the scalar. -/
theorem jsonString_consistent (hcoder : coders.get? scalar = some jsonString.coder) {v : Json}
    (hnames : v.HasDistinctNames) (hwhole : v.HasNoDoubles) (hdepth : v.depth ≤ 127) :
    coders.encode? scalar v = .ok (some (quote v.compact)) ∧
      Json.read (quote v.compact) = .ok (.string v.compact) ∧
      decodeDocument (.string v.compact) = .ok v ∧
      ∀ (r : Json) (place : List Nat), r.at? place = some (.string v.compact) →
        ScalarPaths.OthersDecode decodeDocument r place →
          ∃ r', ScalarPaths.decode [(r.position place, scalar)] coders r = .ok r' ∧
            r'.at? place = some v := by
  have hdecode : decodeDocument (.string v.compact) = .ok v := by
    rw [decodeDocument, read_compact hnames hwhole hdepth]
    rfl
  refine ⟨encode?_of_get? hcoder rfl v, read_quote _, hdecode, fun r place hat hothers => ?_⟩
  obtain ⟨hdecoder, hfound⟩ := decoderAt?_of_get? hcoder rfl (r.position place)
  refine ScalarPaths.exists_decode_at? hdecoder hat hothers ?_
  simp [ScalarPaths.decodeAt, hfound, ScalarPaths.decodeWith, hdecode, Except.mapError]

/-- Names out of order, quotes and backslashes, and the least number. -/
def tangledDocument : Json :=
  .object [
    ("z \"\n", .array [.null, .number (.whole ⟨-9223372036854775808, by decide, by decide⟩)]),
    ("a", .string "\\\"")]

/-- The layers of quotes are taken off again, and the names keep their order. -/
theorem jsonString_consistent_tangled :
    (Coders.withCoder .empty "Document" jsonString.coder).get? "Document" =
        some jsonString.coder ∧
      tangledDocument.HasDistinctNames ∧ tangledDocument.HasNoDoubles ∧
      tangledDocument.depth ≤ 127 ∧
      ∃ r', ScalarPaths.decode [(["draft", "saved"], "Document")]
          (Coders.withCoder .empty "Document" jsonString.coder)
          (wrapped ["draft", "saved"] (.string tangledDocument.compact)) = .ok r' ∧
        r'.at? [0, 0] = some tangledDocument := by
  have hcoder : (Coders.withCoder .empty "Document" jsonString.coder).get? "Document" =
      some jsonString.coder := rfl
  have hnames : tangledDocument.HasDistinctNames := by
    simp [tangledDocument, HasDistinctNames, MembersHaveDistinctNames, AllHaveDistinctNames,
      Entries.keys]
  have hwhole : tangledDocument.HasNoDoubles := by
    simp [tangledDocument, HasNoDoubles, MembersHaveNoDoubles, ItemsHaveNoDoubles]
  have hdepth : tangledDocument.depth ≤ 127 := by decide
  obtain ⟨-, -, -, hresponse⟩ := jsonString_consistent hcoder hnames hwhole hdepth
  have hdecoded := hresponse (wrapped ["draft", "saved"] (.string tangledDocument.compact)) [0, 0]
    (at?_wrapped _ _) (ScalarPaths.othersDecode_wrapped _ _ _)
  have hposition : Json.position (wrapped ["draft", "saved"] (.string tangledDocument.compact))
      [0, 0] = ["draft", "saved"] :=
    (position_wrapped _ _).trans (by decide +kernel)
  rw [hposition] at hdecoded
  exact ⟨hcoder, hnames, hwhole, hdepth, hdecoded⟩

/-- **The codec of numbers is consistent through a response.**  Null, whole numbers and arrays of
them are encoded as a text that is read as the value with strings for its numbers, and a response
that has this at the one position of the scalar is decoded to the value.  Encoding fails with the
first boolean or object, in nested arrays too, and with nothing else. -/
theorem numericString_consistent (hcoder : coders.get? scalar = some numericString.coder) :
    (∀ v : Json, v.IsNumeric → v.depth ≤ 127 →
      ∃ text, coders.encode? scalar v = .ok (some text) ∧ Json.read text = .ok v.asSent ∧
        ∀ (r : Json) (place : List Nat), r.at? place = some v.asSent →
          ScalarPaths.OthersDecode decodeNumeric r place →
            ∃ r', ScalarPaths.decode [(r.position place, scalar)] coders r = .ok r' ∧
              r'.at? place = some v) ∧
    ∀ (v : Json) (e : CoderError), coders.encode? scalar v = .error e ↔
      ∃ u, v.elements.find? isBoolOrObject = some u ∧ e = .invalidValue u.compact := by
  have hencode := encode?_of_get? hcoder rfl
  refine ⟨fun v hnumeric hdepth => ?_, fun v e => ?_⟩
  · obtain ⟨t, ht, hreads⟩ := exists_encodeNumeric 127 hnumeric hdepth
    have hread := read_of_readsAs hreads (hasDistinctNames_asSent hnumeric)
    rw [String.ofList_toList] at hread
    refine ⟨t, by rw [hencode, ht]; rfl, hread, fun r place hat hothers => ?_⟩
    obtain ⟨hdecoder, hfound⟩ := decoderAt?_of_get? hcoder rfl (r.position place)
    exact ScalarPaths.exists_decode_at? hdecoder hat hothers (decodeAt_asSent hfound hnumeric)
  · rw [hencode, map_eq_error_iff, encodeNumeric_eq_error_iff, Option.map_eq_some_iff]
    simp only [eq_comm]

/-- Both ends of the range, at different depths. -/
def widestNumbers : Json :=
  .array [.number (.whole ⟨18446744073709551615, by decide, by decide⟩),
    .array [.null, .number (.whole ⟨-9223372036854775808, by decide, by decide⟩)]]

/-- The strings of nested arrays are numbers again. -/
theorem numericString_consistent_widest :
    (Coders.withCoder .empty "Long" numericString.coder).get? "Long" =
        some numericString.coder ∧
      widestNumbers.IsNumeric ∧ widestNumbers.depth ≤ 127 ∧
      widestNumbers.asSent = .array [.string "18446744073709551615",
        .array [.null, .string "-9223372036854775808"]] ∧
      ∃ r', ScalarPaths.decode [(["count"], "Long")]
          (Coders.withCoder .empty "Long" numericString.coder)
          (wrapped ["count"] widestNumbers.asSent) = .ok r' ∧
        r'.at? [0] = some widestNumbers := by
  have hcoder : (Coders.withCoder .empty "Long" numericString.coder).get? "Long" =
      some numericString.coder := rfl
  have hnumeric : widestNumbers.IsNumeric := by
    simp [widestNumbers, IsNumeric, ItemsAreNumeric]
  have hdepth : widestNumbers.depth ≤ 127 := by decide
  obtain ⟨text, -, -, hresponse⟩ :=
    (numericString_consistent hcoder).1 widestNumbers hnumeric hdepth
  have hdecoded := hresponse (wrapped ["count"] widestNumbers.asSent) [0] (at?_wrapped _ _)
    (ScalarPaths.othersDecode_wrapped _ _ _)
  have hposition : Json.position (wrapped ["count"] widestNumbers.asSent) [0] = ["count"] :=
    (position_wrapped _ _).trans (by decide +kernel)
  rw [hposition] at hdecoded
  exact ⟨hcoder, hnumeric, hdepth, by decide +kernel, hdecoded⟩

end Consistent

end StockCodec

end FieldQuery
