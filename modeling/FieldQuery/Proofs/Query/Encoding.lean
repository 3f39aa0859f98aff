/-
**Variables and encoders.**

A placeholder is a value of its own: it is written as its variable before any encoder is asked, and
no encoder is ever shown a marked string.  What an encoder can be shown is a list or an object with
placeholders inside, because a scalar may be of any form and is encoded as a whole.  Such
placeholders are no longer placeholders of the query; `Argument.isEncodedAbove` tells them from the
others.

Main definitions:

* `Argument.isEncodedAbove` — on the way to a place, a composite value is encoded as a whole;
* `Selection.calls` — the arguments of the calls of a selection, with their positions.

Main results:

* `Argument.at?_value_of_placeholder`, `Argument.marked_mem_demands` — a placeholder that is not
  inside an encoded composite is written as its variable, and demanded;
* `Selection.infix_written_of_mem_calls` — the arguments of every call stand in the text;
* `SelectionSet.compile_congr` — encoders that agree off the marked strings write the same query;
* `SelectionSet.placeholder_written_of_compile` — **placeholders outside encoded composites are
  written and declared, and encoders are never shown one**;
* `SelectionSet.compile_of_placeholder_in_list` — inside an encoded list a placeholder is neither
  written as a variable nor declared.
-/

import FieldQuery.Proofs.Query.Collection
import FieldQuery.Scalar.Stock

set_option autoImplicit false

namespace FieldQuery

namespace Argument

/-! ### Placeholders in arguments -/

/-- On the way to a place, a composite value is encoded as a whole. -/
def isEncodedAbove (schema : Schema) (coders : Coders) : SchemaPath → Json → List Nat → Bool
  | _, _, [] => false
  | path, v, i :: place =>
    (encoderAt? schema coders path).isSome ||
      match v with
      | .array items => items[i]?.any fun w => isEncodedAbove schema coders path w place
      | .object members =>
        members[i]?.any fun e => isEncodedAbove schema coders (path.argument e.1) e.2 place
      | _ => false

variable {schema : Schema} {coders : Coders}

theorem itemValues_eq_map (path : SchemaPath) (vs : List Json) :
    itemValues schema coders path vs = vs.map (value schema coders path) := by
  induction vs with
  | nil => rfl
  | cons v r ih => rw [itemValues, ih, List.map_cons]

theorem memberValues_eq_map (path : SchemaPath) (es : List (String × Json)) :
    memberValues schema coders path es =
      es.map fun e => (e.1, value schema coders (path.argument e.1) e.2) := by
  induction es with
  | nil => rfl
  | cons e r ih => rw [memberValues, ih, List.map_cons]

theorem itemDemands_eq_flatMap (path : SchemaPath) (vs : List Json) :
    itemDemands schema coders path vs = vs.flatMap (demands schema coders path) := by
  induction vs with
  | nil => rfl
  | cons v r ih => rw [itemDemands, ih, List.flatMap_cons]

theorem memberDemands_eq_flatMap (path : SchemaPath) (es : List (String × Json)) :
    memberDemands schema coders path es =
      es.flatMap fun e => demands schema coders (path.argument e.1) e.2 := by
  induction es with
  | nil => rfl
  | cons e r ih => rw [memberDemands, ih, List.flatMap_cons]

theorem isMarked_of_ofText {text : String} {x : Variable}
    (h : Variable.ofText text = .ok (some x)) : isMarked text = true := by
  by_contra hnot
  rw [ofText_of_not_isMarked (by simpa using hnot)] at h
  simp at h

theorem demand?_of_no_encoder {path : SchemaPath} {v : Json} (hv : isMarkedString v = false)
    (h : (encoderAt? schema coders path).isSome = false) :
    demand? schema coders path v = none := by
  have hnone : encoderAt? schema coders path = none :=
    Option.isNone_iff_eq_none.1 (Option.isSome_eq_false_iff.1 h)
  rw [demand?_of_not_marked path v hv, hnone]
  rfl

/-- **A placeholder that is not inside an encoded composite** is written as its variable, and is
among the demands. -/
theorem at?_value_of_placeholder {place : List Nat} {text : String} {x : Variable}
    (hx : Variable.ofText text = .ok (some x)) :
    ∀ {path : SchemaPath} {v : Json}, v.at? place = some (.string text) →
      isEncodedAbove schema coders path v place = false →
      (value schema coders path v).at? place = some (.variable x.name) ∧
        .marked text ∈ demands schema coders path v := by
  induction place with
  | nil =>
    intro path v hv _
    obtain rfl := Option.some.inj hv
    have hm := isMarked_of_ofText hx
    have hd : demand? schema coders path (.string text) = some (.marked text) := by
      simp [demand?, hm]
    refine ⟨?_, by simp [demands, hd]⟩
    rw [value, whole?, hd]
    simp [Demand.value, hx, QueryValue.at?]
  | cons i place ih =>
    intro path v hv habove
    obtain ⟨w, hw, hat⟩ := Option.bind_eq_some_iff.1 hv
    -- the value above is encoded by nothing, so it is written part by part
    cases v with
    | array items =>
      rw [isEncodedAbove, Bool.or_eq_false_iff] at habove
      obtain ⟨henc, hbelow⟩ := habove
      have hd := demand?_of_no_encoder (v := .array items) rfl henc
      have hi : items[i]? = some w := hw
      simp only [hi, Option.any_some] at hbelow
      obtain ⟨hval, hmem⟩ := ih hat hbelow
      constructor
      · rw [value, whole?, hd, itemValues_eq_map]
        simp [QueryValue.at?, QueryValue.part?, hi, hval]
      · rw [demands, hd, itemDemands_eq_flatMap]
        exact List.mem_flatMap.2 ⟨w, List.mem_of_getElem? hi, hmem⟩
    | object members =>
      rw [isEncodedAbove, Bool.or_eq_false_iff] at habove
      obtain ⟨henc, hbelow⟩ := habove
      have hd := demand?_of_no_encoder (v := .object members) rfl henc
      obtain ⟨e, hi, rfl⟩ := Option.map_eq_some_iff.1 hw
      simp only [hi, Option.any_some] at hbelow
      obtain ⟨hval, hmem⟩ := ih hat hbelow
      constructor
      · rw [value, whole?, hd, memberValues_eq_map]
        simp [QueryValue.at?, QueryValue.part?, hi, hval]
      · rw [demands, hd, memberDemands_eq_flatMap]
        exact List.mem_flatMap.2 ⟨e, List.mem_of_getElem? hi, hmem⟩
    | _ => simp [Json.part?] at hw

/-! ### Encoders and marked strings -/

/-- Two coders have the same encoders, as far as values other than marked strings can tell. -/
def EncodeAlike (coders coders' : Coders) : Prop :=
  ∀ name v, isMarkedString v = false → coders'.encode? name v = coders.encode? name v

variable {coders' : Coders}

/-- A marked string is not shown to an encoder. -/
theorem wholeText?_congr (h : EncodeAlike coders coders') (path : SchemaPath) (v : Json) :
    wholeText? schema coders' path v = wholeText? schema coders path v := by
  cases hm : isMarkedString v with
  | false =>
    have hsame : ∀ name, coders'.encode? name v = coders.encode? name v := fun name => h name v hm
    simp only [wholeText?, hsame]
  | true =>
    cases v with
    | string s =>
      -- it is declared or malformed before the encoders come in
      rcases ofText_of_isMarked hm with ⟨x, hx⟩ | hx
      · simp only [wholeText?, hx]
        rfl
      · simp only [wholeText?, hx]
        rfl
    | _ => simp [isMarkedString] at hm

mutual

theorem text_congr (h : EncodeAlike coders coders') (path : SchemaPath) :
    ∀ v : Json, text schema coders' path v = text schema coders path v
  | .array items => by
    rw [text, text, wholeText?_congr h, itemTexts_congr h path items]
  | .object members => by
    rw [text, text, wholeText?_congr h, memberTexts_congr h path members]
  | .string _ => by rw [text, text, wholeText?_congr h]
  | .null => by rw [text, text, wholeText?_congr h]
  | .bool _ => by rw [text, text, wholeText?_congr h]
  | .number _ => by rw [text, text, wholeText?_congr h]

theorem itemTexts_congr (h : EncodeAlike coders coders') (path : SchemaPath) :
    ∀ vs : List Json, itemTexts schema coders' path vs = itemTexts schema coders path vs
  | [] => rfl
  | v :: r => by rw [itemTexts, itemTexts, text_congr h path v, itemTexts_congr h path r]

theorem memberTexts_congr (h : EncodeAlike coders coders') (path : SchemaPath) :
    ∀ es : List (String × Json),
      memberTexts schema coders' path es = memberTexts schema coders path es
  | [] => rfl
  | (k, v) :: r => by
    rw [memberTexts, memberTexts, text_congr h (path.argument k) v, memberTexts_congr h path r]

end

theorem listText_congr (h : EncodeAlike coders coders') (path : SchemaPath) (v : Json) :
    listText schema coders' path v = listText schema coders path v := by
  unfold listText
  simp only [wholeText?_congr h, text_congr h, memberTexts_congr h]

end Argument

namespace Selection

/-! ### Calls -/

mutual

/-- The arguments of the calls in a member, with their positions. -/
def calls (path : SchemaPath) (field : String) : Selection → List (SchemaPath × Json)
  | .leaf => []
  | .raw _ => []
  | .object members _ => memberCalls (positionBelow path field) members
  | .call arguments body => (path.argument field, arguments) :: calls path field body

/-- The arguments of the calls in the members of a set, with their positions. -/
def memberCalls (path : SchemaPath) : List (MemberKey × Selection) → List (SchemaPath × Json)
  | [] => []
  | (k, s) :: r => calls path k.field s ++ memberCalls path r

end

variable {schema : Schema} {coders coders' : Coders}

mutual

/-- The demands of the arguments of a call are demands of the member. -/
theorem mem_demands_of_mem_calls {path : SchemaPath} {field : String} {c : SchemaPath × Json}
    {d : Demand} (hd : d ∈ Argument.demands schema coders c.1 c.2) :
    ∀ s : Selection, c ∈ calls path field s → d ∈ demands schema coders path field s
  | .leaf, h => by simp [calls] at h
  | .raw _, h => by simp [calls] at h
  | .object members _, h => by
    rw [calls] at h
    rw [demands]
    exact mem_memberDemands_of_mem_calls hd members h
  | .call arguments body, h => by
    rw [calls] at h
    rw [demands]
    rcases List.mem_cons.1 h with rfl | h
    · exact List.mem_append_left _ hd
    · exact List.mem_append_right _ (mem_demands_of_mem_calls hd body h)

theorem mem_memberDemands_of_mem_calls {path : SchemaPath} {c : SchemaPath × Json}
    {d : Demand} (hd : d ∈ Argument.demands schema coders c.1 c.2) :
    ∀ ms : List (MemberKey × Selection), c ∈ memberCalls path ms →
      d ∈ memberDemands schema coders path ms
  | [], h => by simp [memberCalls] at h
  | (k, s) :: r, h => by
    rw [memberCalls] at h
    rw [memberDemands]
    rcases List.mem_append.1 h with h | h
    · exact List.mem_append_left _ (mem_demands_of_mem_calls hd s h)
    · exact List.mem_append_right _ (mem_memberDemands_of_mem_calls hd r h)

end

/-- The key stands at the start of the text of its member. -/
theorem isPrefix_written (path : SchemaPath) (field : String) : ∀ (s : Selection) (key : String),
    key.toList <+: (written schema coders path key field s).toList
  | .leaf, _ => List.prefix_refl _
  | .raw _, key => by
    rw [written, String.append_assoc, String.toList_append]
    exact List.prefix_append _ _
  | .object _ _, key => by
    rw [written, String.append_assoc, String.append_assoc, String.toList_append]
    exact List.prefix_append _ _
  | .call arguments body, key => by
    rw [written]
    refine List.IsPrefix.trans ?_ (isPrefix_written path field body _)
    unfold keyWithArguments
    split
    · exact List.prefix_refl _
    · rw [String.append_assoc, String.append_assoc, String.toList_append]
      exact List.prefix_append _ _

theorem infix_keyWithArguments (key arguments : String) :
    arguments.toList <:+: (keyWithArguments key arguments).toList := by
  unfold keyWithArguments
  split
  · rename_i h
    rw [h]
    exact List.nil_infix
  · exact QueryValue.infix_append_append (key ++ "(") arguments ")"

theorem infix_setTextOf_of_mem {t : String} {ts : List String} (h : t ∈ ts) :
    t.toList <:+: (setTextOf ts).toList := by
  cases ts with
  | nil => simp at h
  | cons u r =>
    rw [setTextOf]
    exact (infix_intercalate_of_mem h).trans (QueryValue.infix_append_append _ _ _)

mutual

/-- **The arguments of every call** stand in the text of the member. -/
theorem infix_written_of_mem_calls {path : SchemaPath} {field : String} {c : SchemaPath × Json} :
    ∀ (s : Selection) (key : String), c ∈ calls path field s →
      (Argument.value schema coders c.1 c.2).argumentsText.toList <:+:
        (written schema coders path key field s).toList
  | .leaf, _, h => by simp [calls] at h
  | .raw _, _, h => by simp [calls] at h
  | .object members directives, key, h => by
    rw [calls] at h
    obtain ⟨t, ht, hstands⟩ := infix_memberWritten_of_mem_calls members h
    rw [written, String.toList_append]
    exact (hstands.trans (infix_setTextOf_of_mem ht)).trans (List.suffix_append _ _).isInfix
  | .call arguments body, key, h => by
    rw [calls] at h
    rw [written]
    rcases List.mem_cons.1 h with rfl | h
    · exact (infix_keyWithArguments _ _).trans (isPrefix_written path field body _).isInfix
    · exact infix_written_of_mem_calls body _ h

theorem infix_memberWritten_of_mem_calls {path : SchemaPath} {c : SchemaPath × Json} :
    ∀ ms : List (MemberKey × Selection), c ∈ memberCalls path ms →
      ∃ t ∈ memberWritten schema coders path ms,
        (Argument.value schema coders c.1 c.2).argumentsText.toList <:+: t.toList
  | [], h => by simp [memberCalls] at h
  | (k, s) :: r, h => by
    rw [memberCalls] at h
    rw [memberWritten]
    rcases List.mem_append.1 h with h | h
    · exact ⟨_, List.mem_cons_self, infix_written_of_mem_calls s _ h⟩
    · obtain ⟨t, ht, hstands⟩ := infix_memberWritten_of_mem_calls r h
      exact ⟨t, List.mem_cons_of_mem _ ht, hstands⟩

end

mutual

theorem text_congr (h : Argument.EncodeAlike coders coders') (path : SchemaPath) (field : String) :
    ∀ (s : Selection) (key : String),
      text schema coders' path key field s = text schema coders path key field s
  | .leaf, _ => rfl
  | .raw _, _ => rfl
  | .object members _, _ => by rw [text, text, memberTexts_congr h _ members]
  | .call arguments body, _ => by
    rw [text, text, Argument.listText_congr h]
    simp only [text_congr h path field body]

theorem memberTexts_congr (h : Argument.EncodeAlike coders coders') (path : SchemaPath) :
    ∀ ms : List (MemberKey × Selection),
      memberTexts schema coders' path ms = memberTexts schema coders path ms
  | [] => rfl
  | (k, s) :: r => by
    rw [memberTexts, memberTexts, text_congr h path k.field s, memberTexts_congr h path r]

end

end Selection

namespace SelectionSet

variable {schema : Schema} {coders coders' : Coders}

/-- The arguments of the calls in a set as the body of an operation, with their positions. -/
def calls (operation : String) (s : SelectionSet) : List (SchemaPath × Json) :=
  Selection.memberCalls (SchemaPath.field [] operation) s.members

/-- Encoders that agree off the marked strings write the same query. -/
theorem compile_congr (h : Argument.EncodeAlike coders coders') (operationName : Option String)
    (operation : String) (s : SelectionSet) :
    s.compile schema coders' operationName operation =
      s.compile schema coders operationName operation := by
  unfold compile bodyText
  rw [Selection.memberTexts_congr h]

/-- **Placeholders outside encoded composites are written and declared.**  In a query that could be
written, each stands as its variable between the parentheses of its call and is declared with its
type; and the query does not depend on what encoders make of marked strings, because they are never
shown one. -/
theorem placeholder_written_of_compile {operationName : Option String} {operation : String}
    {s : SelectionSet} {q : CompiledQuery}
    (h : s.compile schema coders operationName operation = .ok q) :
    (∀ c ∈ s.calls operation, ∀ place text x,
      c.2.at? place = some (.string text) → Variable.ofText text = .ok (some x) →
      Argument.isEncodedAbove schema coders c.1 c.2 place = false →
        (Argument.value schema coders c.1 c.2).at? place = some (.variable x.name) ∧
        ("$" ++ x.name).toList <:+:
          (Argument.value schema coders c.1 c.2).argumentsText.toList ∧
        (Argument.value schema coders c.1 c.2).argumentsText.toList <:+: q.text.toList ∧
        q.declared.get? x.name = some x.type) ∧
    ∀ coders', Argument.EncodeAlike coders coders' →
      s.compile schema coders' operationName operation = .ok q := by
  refine ⟨fun c hc place text x hat hx habove => ?_, fun coders' hsame => ?_⟩
  · obtain ⟨ht, hclean, htext⟩ := of_compile_eq_ok h
    obtain ⟨hval, hmem⟩ := Argument.at?_value_of_placeholder hx hat habove
    have hdemand : .marked text ∈ s.demands schema coders operation :=
      Selection.mem_memberDemands_of_mem_calls hmem s.members hc
    have huse : x ∈ Demand.uses (s.demands schema coders operation) :=
      List.mem_filterMap.2 ⟨_, hdemand, Demand.use?_marked_of_ok hx⟩
    obtain ⟨t, hwritten, hstands⟩ := Selection.infix_memberWritten_of_mem_calls s.members hc
    refine ⟨hval, QueryValue.infix_argumentsText_of_at? hval, ?_, ht.type_of_use hclean huse⟩
    rw [htext, String.toList_append]
    exact (hstands.trans (Selection.infix_setTextOf_of_mem hwritten)).trans
      (List.suffix_append _ _).isInfix
  · rw [compile_congr hsame, h]

/-! ### A list of numbers -/

/-- A schema in which `sum` takes numbers, which are a custom scalar, and a unit. -/
def numericSchema : Schema :=
  ⟨.ofEntries [("query", "Query")],
    .ofEntries [
      ("Query", .fields (.ofEntries
        [("sum", .arguments (.ofEntries [("of", "numeric"), ("unit", "String")]))])),
      ("numeric", .scalar "numeric")],
    .empty⟩

/-- Numbers are sent as strings. -/
def numericCoders : Coders := Coders.withCoder .empty "numeric" StockCodec.numericString.coder

/-- The sum of numbers in a unit. -/
def sumOf (numbers unit : Json) : SelectionSet :=
  SelectionSet.empty.withCall "sum" (.object [("of", numbers), ("unit", unit)]) .leaf

/-- Beside a list of numbers that is encoded as a whole, a placeholder inside a list of units is
written and declared. -/
theorem placeholder_written_in_units :
    ((sumOf (.array [.string "$qsel:n::$type::numeric!"])
          (.array [.array [.string "$qsel:u::$type::String!"]])).compile
        numericSchema numericCoders none "query" =
      .ok ⟨"query($u: String!) \x7b sum(of: [\"$qsel:n::$type::numeric!\"], unit: [[$u]]) \x7d",
        .ofEntries [("u", "String!")]⟩) ∧
    Dictionary.get? (.ofEntries [("u", "String!")] : VariableTable) "u" = some "String!" :=
  have h : (sumOf (.array [.string "$qsel:n::$type::numeric!"])
        (.array [.array [.string "$qsel:u::$type::String!"]])).compile
      numericSchema numericCoders none "query" =
    .ok ⟨"query($u: String!) \x7b sum(of: [\"$qsel:n::$type::numeric!\"], unit: [[$u]]) \x7d",
      .ofEntries [("u", "String!")]⟩ := by decide +kernel
  ⟨h, ((placeholder_written_of_compile h).1 _ List.mem_cons_self [1, 0, 0]
    "$qsel:u::$type::String!" ⟨"u", "String!"⟩ rfl rfl rfl).2.2.2⟩

/-- **Inside an encoded list** a placeholder is neither written as its variable nor declared, and
the encoder is shown the list with the placeholder in it. -/
theorem compile_of_placeholder_in_list :
    (sumOf (.array [.string "$qsel:n::$type::numeric!"]) .null).compile
        numericSchema numericCoders none "query" =
      .ok ⟨"query \x7b sum(of: [\"$qsel:n::$type::numeric!\"], unit: null) \x7d", .empty⟩ ∧
    (sumOf (.array [.string "$qsel:n::$type::numeric!"]) .null).demands
        numericSchema numericCoders "query" =
      [.encoding "numeric" (.array [.string "$qsel:n::$type::numeric!"])] ∧
    ¬ ∀ (schema : Schema) (coders : Coders) (operationName : Option String) (operation : String)
        (s : SelectionSet) (q : CompiledQuery),
      s.compile schema coders operationName operation = .ok q →
      ∀ c ∈ s.calls operation, ∀ place text x,
        c.2.at? place = some (.string text) → Variable.ofText text = .ok (some x) →
          q.declared.get? x.name = some x.type := by
  have h : (sumOf (.array [.string "$qsel:n::$type::numeric!"]) .null).compile
        numericSchema numericCoders none "query" =
      .ok ⟨"query \x7b sum(of: [\"$qsel:n::$type::numeric!\"], unit: null) \x7d", .empty⟩ := by
    decide +kernel
  refine ⟨h, by decide +kernel, fun hall => ?_⟩
  -- the placeholder stands at the first place of the first argument
  have hdeclared := hall _ _ _ _ _ _ h _ List.mem_cons_self [0, 0] "$qsel:n::$type::numeric!"
    ⟨"n", "numeric!"⟩ rfl rfl
  exact absurd hdeclared (by decide)

end SelectionSet

end FieldQuery
