/-
**Which table decides.**

A position below a type is classified by two tables, and at every type the table of inputs is asked
before that of results.  Two kinds of positions are settled by one table alone.  Along fields only
the results count, whatever inputs are described on the way, so a position that is classified for
an argument below is reached just as a result is looked up.  Along arguments that are described only
the inputs count: each step that the table of inputs can take is taken for good, and no table of
results, whatever it says of the types on the way, is asked again.  The types may refer to each
other in circles; what is walked along is the list of names.

Main definitions:

* `Schema.inputClass?`, `Schema.resultClass?` — what a type is described as in either table;
* `Schema.InputWalk`, `Schema.Covered` — a walk through the table of inputs, with what it ends at,
  and positions that such a walk leads to.

Main results:

* `Schema.classifyFrom_fields_append` — what lies behind fields lies behind the type they lead to;
* `Schema.classify_along_fields` — **both lookups follow fields alike**, and differ at most in what
  they make of the type reached;
* `Schema.InputWalk.classifyFrom_eq` — a walk through the inputs ends at the classification;
* `Schema.classifyFrom_eq_of_covered` — **results do not matter to arguments that are described**.
-/

import FieldQuery.Proofs.Schema.Walk

set_option autoImplicit false

namespace FieldQuery.Schema

open SchemaPath

/-! ### Types -/

/-- What a type is described as where arguments are described. -/
def inputClass? (s : Schema) (type : String) : Option Classification :=
  (s.inputs.get? type).map TypeShape.classification

/-- What a type is described as where results are described. -/
def resultClass? (s : Schema) (type : String) : Option Classification :=
  (s.results.get? type).map TypeShape.classification

/-- The position of a type itself asks the inputs first. -/
theorem classifyFrom_nil (s : Schema) (type : String) :
    s.classifyFrom type [] = (s.inputClass? type).getD ((s.resultClass? type).getD .neither) := by
  rw [classifyFrom, classifyType, inputClass?, resultClass?]
  cases s.inputs.get? type with
  | some shape => rfl
  | none => cases s.results.get? type <;> rfl

/-- As a result a type is what the results describe it as. -/
theorem resultAt_nil (s : Schema) (type : String) :
    s.resultAt type [] = (s.resultClass? type).getD .neither := by
  rw [resultAt, resultClass?]
  cases s.results.get? type <;> rfl

/-! ### Along fields -/

/-- What lies behind fields lies behind the type they lead to; where they lead nowhere there is
nothing. -/
theorem classifyFrom_fields_append (s : Schema) (type : String) (fs : List String)
    (rest : SchemaPath) :
    s.classifyFrom type (fields fs ++ rest) =
      ((s.walk? type fs).map fun t => s.classifyFrom t rest).getD .neither := by
  induction fs generalizing type with
  | nil => rfl
  | cons field names ih =>
    rw [fields_cons, List.cons_append, classifyFrom_field, walk?_cons]
    cases s.resultField? type field with
    | none => rfl
    | some t => exact ih t

/-- **Both lookups follow fields alike.**  Where the fields lead to a type, either lookup goes on
from there; where they lead nowhere, either finds nothing.  At the type itself the one asks the
inputs before the results and the other the results alone, so they agree exactly if the inputs say
of the type what the results say, or nothing. -/
theorem classify_along_fields (s : Schema) (type : String) (fs : List String) :
    match s.walk? type fs with
    | some t =>
      (∀ rest, s.classifyFrom type (fields fs ++ rest) = s.classifyFrom t rest) ∧
      (∀ names, s.resultAt type (fs ++ names) = s.resultAt t names) ∧
      s.classifyFrom type (fields fs) =
        (s.inputClass? t).getD ((s.resultClass? t).getD .neither) ∧
      s.resultAt type fs = (s.resultClass? t).getD .neither ∧
      (s.classifyFrom type (fields fs) = s.resultAt type fs ↔
        ∀ c, s.inputClass? t = some c → c = (s.resultClass? t).getD .neither)
    | none =>
      fs ≠ [] ∧ (∀ rest, s.classifyFrom type (fields fs ++ rest) = .neither) ∧
      ∀ names, s.resultAt type (fs ++ names) = .neither := by
  have hclassify := s.classifyFrom_fields_append type fs
  have hresult := s.resultAt_append type fs
  cases hwalk : s.walk? type fs with
  | none =>
    simp only [hwalk, Option.map_none, Option.getD_none] at hclassify hresult
    refine ⟨?_, hclassify, hresult⟩
    rintro rfl
    simp at hwalk
  | some t =>
    simp only [hwalk, Option.map_some, Option.getD_some] at hclassify hresult
    have hhere : s.classifyFrom type (fields fs) =
        (s.inputClass? t).getD ((s.resultClass? t).getD .neither) := by
      rw [← classifyFrom_nil, ← hclassify [], List.append_nil]
    have hthere : s.resultAt type fs = (s.resultClass? t).getD .neither := by
      rw [← resultAt_nil, ← hresult [], List.append_nil]
    refine ⟨hclassify, hresult, hhere, hthere, ?_⟩
    rw [hhere, hthere]
    cases s.inputClass? t with
    | none => simp
    | some c => simp

/-- Tables for which a status is an enumeration where it is given and a scalar where it is
returned. -/
def statusSchema : Schema where
  operations := .empty
  inputs := .ofEntries [("status", .enumeration)]
  results := .ofEntries [
    ("Query", .fields (.ofEntries [("order", "order")])),
    ("order", .fields (.ofEntries [("state", "status"), ("total", "amount")])),
    ("amount", .scalar "numeric"),
    ("status", .scalar "code")]

/-- Either lookup is led to the status and to the amount.  The two part at the status, which both
tables describe, and agree on the amount; behind the status there is nothing for either. -/
theorem classify_along_fields_status :
    statusSchema.walk? "Query" ["order", "state"] = some "status" ∧
    statusSchema.classifyFrom "Query" (fields ["order", "state"]) = .enumeration ∧
    statusSchema.resultAt "Query" ["order", "state"] = .scalar "code" ∧
    statusSchema.walk? "Query" ["order", "total"] = some "amount" ∧
    statusSchema.classifyFrom "Query" (fields ["order", "total"]) = .scalar "numeric" ∧
    statusSchema.resultAt "Query" ["order", "total"] = .scalar "numeric" ∧
    statusSchema.walk? "Query" ["order", "state", "name"] = none ∧
    (∀ rest, statusSchema.classifyFrom "Query" (fields ["order", "state", "name"] ++ rest) =
      .neither) := by
  have hstatus : statusSchema.walk? "Query" ["order", "state"] = some "status" := by decide
  have hamount : statusSchema.walk? "Query" ["order", "total"] = some "amount" := by decide
  have hname : statusSchema.walk? "Query" ["order", "state", "name"] = none := by decide
  have hinput : statusSchema.inputClass? "amount" = none := by decide
  have hatStatus := statusSchema.classify_along_fields "Query" ["order", "state"]
  have hatAmount := statusSchema.classify_along_fields "Query" ["order", "total"]
  have hatName := statusSchema.classify_along_fields "Query" ["order", "state", "name"]
  rw [hstatus] at hatStatus
  rw [hamount] at hatAmount
  rw [hname] at hatName
  obtain ⟨-, -, hclassStatus, hresultStatus, -⟩ := hatStatus
  obtain ⟨-, -, -, hresultAmount, hagree⟩ := hatAmount
  refine ⟨hstatus, hclassStatus, hresultStatus, hamount, ?_, hresultAmount, hname, hatName.2.1⟩
  exact (hagree.2 fun c hc => by rw [hinput] at hc; cases hc).trans hresultAmount

/-! ### Along arguments -/

/-- A walk through the table of inputs: from a type along names to what they end at.  A field of a
type is an input itself, or it has arguments, of which the next name is one. -/
inductive InputWalk (inputs : Dictionary (TypeShape InputField)) :
    String → List String → Classification → Prop
  | entry {type : String} {shape : TypeShape InputField} (htype : inputs.get? type = some shape) :
    InputWalk inputs type [] shape.classification
  | input {type name next : String} {names : List String} {inputFields : Dictionary InputField}
      {c : Classification} (htype : inputs.get? type = some (.fields inputFields))
      (hfield : inputFields.get? name = some (.type next))
      (hnext : InputWalk inputs next names c) : InputWalk inputs type (name :: names) c
  | bag {type name : String} {inputFields : Dictionary InputField} {types : Dictionary String}
      (htype : inputs.get? type = some (.fields inputFields))
      (hfield : inputFields.get? name = some (.arguments types)) :
    InputWalk inputs type [name] .neither
  | argument {type name argument next : String} {names : List String}
      {inputFields : Dictionary InputField} {types : Dictionary String} {c : Classification}
      (htype : inputs.get? type = some (.fields inputFields))
      (hfield : inputFields.get? name = some (.arguments types))
      (hargument : types.get? argument = some next) (hnext : InputWalk inputs next names c) :
    InputWalk inputs type (name :: argument :: names) c

/-- The table of inputs describes the position that names lead to from a type. -/
def Covered (inputs : Dictionary (TypeShape InputField)) (type : String) (names : List String) :
    Prop :=
  ∃ c, InputWalk inputs type names c

/-- A step into an input is taken for good. -/
theorem classifyFrom_input {s : Schema} {type name next : String}
    {inputFields : Dictionary InputField} (htype : s.inputs.get? type = some (.fields inputFields))
    (hfield : inputFields.get? name = some (.type next)) (rest : SchemaPath) :
    s.classifyFrom type (⟨name, .argument⟩ :: rest) = s.classifyFrom next rest := by
  rw [classifyFrom]
  simp [Segment.isArgument, inputField?, htype, hfield]

/-- A step to the arguments of a field is taken for good: they are neither. -/
theorem classifyFrom_bag {s : Schema} {type name : String}
    {inputFields : Dictionary InputField} {types : Dictionary String}
    (htype : s.inputs.get? type = some (.fields inputFields))
    (hfield : inputFields.get? name = some (.arguments types)) :
    s.classifyFrom type [⟨name, .argument⟩] = .neither := by
  rw [classifyFrom]
  simp [Segment.isArgument, inputField?, htype, hfield]

/-- A step into an argument that is described is taken for good. -/
theorem classifyFrom_argument {s : Schema} {type name argument next : String}
    {inputFields : Dictionary InputField} {types : Dictionary String}
    (htype : s.inputs.get? type = some (.fields inputFields))
    (hfield : inputFields.get? name = some (.arguments types))
    (hargument : types.get? argument = some next) (rest : SchemaPath) :
    s.classifyFrom type (⟨name, .argument⟩ :: ⟨argument, .argument⟩ :: rest) =
      s.classifyFrom next rest := by
  rw [classifyFrom]
  simp [Segment.isArgument, inputField?, htype, hfield, hargument]

/-- A walk through the inputs ends at the classification of the position, whatever the results. -/
theorem InputWalk.classifyFrom_eq {s : Schema} {type : String} {names : List String}
    {c : Classification} (h : InputWalk s.inputs type names c) :
    s.classifyFrom type (arguments names) = c := by
  induction h with
  | entry htype => simp [classifyFrom_nil, inputClass?, htype]
  | input htype hfield _ ih => rw [arguments_cons, classifyFrom_input htype hfield, ih]
  | bag htype hfield => exact classifyFrom_bag htype hfield
  | argument htype hfield hargument _ ih =>
    rw [arguments_cons, arguments_cons, classifyFrom_argument htype hfield hargument, ih]

/-- **Results do not matter to arguments that are described.**  Two schemas with the same table of
inputs classify a position that it describes alike, as what the walk through it ends at. -/
theorem classifyFrom_eq_of_covered {s s' : Schema} (htables : s'.inputs = s.inputs) {type : String}
    {names : List String} (h : Covered s.inputs type names) :
    s'.classifyFrom type (arguments names) = s.classifyFrom type (arguments names) ∧
      ∀ c, InputWalk s.inputs type names c ↔ s.classifyFrom type (arguments names) = c := by
  obtain ⟨c, hwalk⟩ := h
  have hhere := hwalk.classifyFrom_eq
  have hthere := (htables.symm ▸ hwalk : InputWalk s'.inputs type names c).classifyFrom_eq
  refine ⟨hthere.trans hhere.symm, fun c' => ⟨InputWalk.classifyFrom_eq, ?_⟩⟩
  rintro rfl
  rwa [hhere]

/-- Inputs of a query for tokens; a condition on tokens can be made of two such conditions. -/
def tokenInputs : Dictionary (TypeShape InputField) :=
  .ofEntries [
    ("Query", .fields (.ofEntries [("token", .arguments (.ofEntries [("where", "condition")]))])),
    ("condition", .fields (.ofEntries [("both", .type "condition"), ("supply", .type "amount")])),
    ("amount", .scalar "numeric")]

/-- Results that have something else to say of every type and field on the way. -/
def tokenResults : Dictionary (TypeShape String) :=
  .ofEntries [
    ("Query", .fields (.ofEntries [("token", "amount")])),
    ("condition", .fields (.ofEntries [("both", "amount"), ("supply", "condition")])),
    ("amount", .enumeration)]

/-- A condition inside conditions is classified by the inputs, whatever the results say. -/
theorem classifyFrom_nested_condition :
    Covered tokenInputs "Query" ["token", "where", "both", "both", "supply"] ∧
      (⟨.empty, tokenInputs, tokenResults⟩ : Schema).classifyFrom "Query"
          (arguments ["token", "where", "both", "both", "supply"]) = .scalar "numeric" ∧
      (⟨.empty, tokenInputs, .empty⟩ : Schema).classifyFrom "Query"
          (arguments ["token", "where", "both", "both", "supply"]) = .scalar "numeric" := by
  have hamount : InputWalk tokenInputs "amount" [] (.scalar "numeric") :=
    InputWalk.entry (show tokenInputs.get? "amount" = some (.scalar "numeric") from rfl)
  have hwalk : InputWalk tokenInputs "Query" ["token", "where", "both", "both", "supply"]
      (.scalar "numeric") :=
    .argument rfl rfl rfl (.input rfl rfl (.input rfl rfl (.input rfl rfl hamount)))
  have htables : (⟨.empty, tokenInputs, tokenResults⟩ : Schema).inputs =
      (⟨.empty, tokenInputs, .empty⟩ : Schema).inputs := rfl
  obtain ⟨hsame, hclass⟩ := classifyFrom_eq_of_covered htables ⟨_, hwalk⟩
  have hnumeric := (hclass _).1 hwalk
  exact ⟨⟨_, hwalk⟩, hsame.trans hnumeric, hnumeric⟩

end FieldQuery.Schema
