/-
**What writing a query asks for.**

Writing the members of a selection consists of two things that do not meet.  One is the text: it is
fixed by the selection, the schema and the encoders, whatever variables were declared before.  The
other is the sequence of *demands*: the marked strings and the calls of encoders, in the order in
which they are reached.  A demand that cannot be met ends the writing, and what has been met of the
marked strings makes the table of variables.

This module takes the two apart.  All later statements about compiled queries are statements about
the demands of a selection, or about its text, and never about the order of the computation.

Main definitions:

* `Compilation.result` — what a computation gives, and the variables declared after it;
* `Demand` — a marked string or a call of an encoder;
* `Demand.meet`, `Demand.replay` — the variables declared after one demand, and after several;
* `Argument.demands`, `Selection.demands` — the demands of a value, and of a selection;
* `Argument.value`, `Selection.written` — the value of the query language that an argument becomes,
  and the text of a member.

Main results:

* `Argument.result_text`, `Argument.result_listText` — writing a value is meeting its demands and
  printing its value;
* `Selection.result_text` — writing a member is meeting its demands and printing its text;
* `SelectionSet.compile_eq` — so is writing a query.
-/

import Mathlib.Data.List.Basic
import FieldQuery.Proofs.Query.Value
import FieldQuery.Query.Compile

set_option autoImplicit false

namespace FieldQuery

/-! ### Results of computations -/

namespace Compilation

/-- What a computation gives, and the variables declared after it. -/
def result {α : Type} (x : Compilation α) (t : VariableTable) :
    Except QueryError (α × VariableTable) :=
  match x.run t with
  | (.ok a, t') => .ok (a, t')
  | (.error e, _) => .error e

@[simp] theorem result_pure {α : Type} (a : α) (t : VariableTable) :
    (pure a : Compilation α).result t = .ok (a, t) := rfl

@[simp] theorem result_bind {α β : Type} (x : Compilation α) (f : α → Compilation β)
    (t : VariableTable) :
    (x >>= f).result t = (x.result t).bind fun r => (f r.1).result r.2 := by
  simp only [result, bind, ExceptT.bind, ExceptT.mk, ExceptT.run, StateT.bind]
  -- a failure drops the table of variables on both sides
  rcases x t with ⟨_ | a, t'⟩ <;> rfl

@[simp] theorem result_map {α β : Type} (f : α → β) (x : Compilation α) (t : VariableTable) :
    (f <$> x).result t = (x.result t).map fun r => (f r.1, r.2) := by
  rw [map_eq_pure_bind, result_bind]
  cases x.result t <;> rfl

@[simp] theorem result_lift {α : Type} (r : Except QueryError α) (t : VariableTable) :
    (lift r).result t = r.map fun a => (a, t) := by
  cases r <;> rfl

@[simp] theorem result_declare (v : Variable) (t : VariableTable) :
    (declare v).result t = ((t.declare v).mapError .variable).map fun t' => ((), t') := by
  simp only [result, declare, ExceptT.run]
  cases t.declare v <;> rfl

end Compilation

/-! ### Demands -/

/-- Something that writing a query asks for. -/
inductive Demand where
  /-- A string with the marker of a variable. -/
  | marked (text : String)
  /-- A call of the encoder of a scalar. -/
  | encoding (scalar : String) (value : Json)
deriving DecidableEq

namespace Demand

/-- The variables declared after a demand. -/
def meet (coders : Coders) (t : VariableTable) : Demand → Except QueryError VariableTable
  | marked text =>
    match Variable.ofText text with
    | .error e => .error (.variable e)
    | .ok none => .ok t
    | .ok (some x) => (t.declare x).mapError .variable
  | encoding scalar v => ((coders.encode? scalar v).mapError .coder).map fun _ => t

/-- The variables declared after several demands. -/
def replay (coders : Coders) : List Demand → VariableTable → Except QueryError VariableTable
  | [], t => .ok t
  | d :: r, t => (d.meet coders t).bind (replay coders r)

theorem replay_append (coders : Coders) (ds es : List Demand) (t : VariableTable) :
    replay coders (ds ++ es) t = (replay coders ds t).bind (replay coders es) := by
  induction ds generalizing t with
  | nil => rfl
  | cons d r ih =>
    simp only [List.cons_append, replay]
    cases d.meet coders t with
    | error e => rfl
    | ok t' => exact ih t'

/-- What stands in the text for a demand that is met. -/
def value (coders : Coders) : Demand → QueryValue
  | marked text =>
    match Variable.ofText text with
    | .ok (some x) => .variable x.name
    | _ => .verbatim ""
  | encoding scalar v =>
    match coders.encode? scalar v with
    | .ok (some t) => .verbatim t
    | _ => .verbatim ""

/-- What stands for a demand has no outer braces to lose. -/
theorem argumentsText_value {coders : Coders} (d : Demand) :
    (d.value coders).argumentsText = (d.value coders).text := by
  unfold value
  split <;> split <;> rfl

end Demand

namespace Argument

variable (schema : Schema) (coders : Coders)

/-! ### Values -/

/-- The scalar at a position, with its encoder, where it has one. -/
def encoderAt? (path : SchemaPath) : Option (String × (Json → Except CoderError String)) :=
  match schema.classify path with
  | .scalar name => (coders.encoder? name).map fun f => (name, f)
  | _ => none

/-- The string has the marker of a variable. -/
def isMarked (s : String) : Bool := Variable.marker.isPrefixOf s.toList

/-- The value is a string with the marker of a variable. -/
def isMarkedString : Json → Bool
  | .string s => isMarked s
  | _ => false

/-- The demand that a value makes as a whole. -/
def demand? (path : SchemaPath) (v : Json) : Option Demand :=
  match v with
  | .string s =>
    if isMarked s then some (.marked s)
    else (encoderAt? schema coders path).map fun e => .encoding e.1 (.string s)
  | v => (encoderAt? schema coders path).map fun e => .encoding e.1 v

mutual

/-- The demands of a value at a position. -/
def demands (path : SchemaPath) : Json → List Demand
  | .array items =>
    (demand? schema coders path (.array items)).elim (itemDemands path items) fun d => [d]
  | .object members =>
    (demand? schema coders path (.object members)).elim (memberDemands path members) fun d => [d]
  | .string s => (demand? schema coders path (.string s)).elim [] fun d => [d]
  | .null => (demand? schema coders path .null).elim [] fun d => [d]
  | .bool b => (demand? schema coders path (.bool b)).elim [] fun d => [d]
  | .number n => (demand? schema coders path (.number n)).elim [] fun d => [d]

/-- The demands of elements, all at one position. -/
def itemDemands (path : SchemaPath) : List Json → List Demand
  | [] => []
  | v :: r => demands path v ++ itemDemands path r

/-- The demands of entries, each at its position below. -/
def memberDemands (path : SchemaPath) : List (String × Json) → List Demand
  | [] => []
  | (k, v) :: r => demands (path.argument k) v ++ memberDemands path r

end

/-- What stands for a value as a whole, where it makes a demand as one. -/
def whole? (path : SchemaPath) (v : Json) : Option QueryValue :=
  (demand? schema coders path v).map (Demand.value coders)

/-- An ordinary string at a position. -/
def stringValue (path : SchemaPath) (s : String) : QueryValue :=
  if schema.classify path = .enumeration then .enumeration s else .string s

mutual

/-- The value of the query language that a value at a position becomes. -/
def value (path : SchemaPath) : Json → QueryValue
  | .array items => (whole? schema coders path (.array items)).getD (.list (itemValues path items))
  | .object members =>
    (whole? schema coders path (.object members)).getD (.object (memberValues path members))
  | .string s => (whole? schema coders path (.string s)).getD (stringValue schema path s)
  | .null => (whole? schema coders path .null).getD .null
  | .bool b => (whole? schema coders path (.bool b)).getD (.bool b)
  | .number n => (whole? schema coders path (.number n)).getD (.number n)

/-- The values of elements, all at one position. -/
def itemValues (path : SchemaPath) : List Json → List QueryValue
  | [] => []
  | v :: r => value path v :: itemValues path r

/-- The values of entries, each at its position below. -/
def memberValues (path : SchemaPath) : List (String × Json) → List (String × QueryValue)
  | [] => []
  | (k, v) :: r => (k, value (path.argument k) v) :: memberValues path r

end

/-! ### Writing a value -/

variable {schema coders}

/-- A string without the marker stands for no variable. -/
theorem ofText_of_not_isMarked {s : String} (h : isMarked s = false) :
    Variable.ofText s = .ok none := by
  refine Variable.ofText_of_not_marked (Option.isNone_iff_eq_none.1 ?_)
  rw [← Option.isSome_eq_false_iff, List.isSome_isPrefixOf?_eq_isPrefixOf]
  exact h

/-- A string with the marker stands for a variable, or is malformed. -/
theorem ofText_of_isMarked {s : String} (h : isMarked s = true) :
    (∃ x, Variable.ofText s = .ok (some x)) ∨ Variable.ofText s = .error (.malformed s) := by
  rw [isMarked, ← List.isSome_isPrefixOf?_eq_isPrefixOf] at h
  obtain ⟨body, hbody⟩ := Option.isSome_iff_exists.1 h
  simp only [Variable.ofText, hbody]
  split
  · exact .inr rfl
  · split
    · exact .inr rfl
    · exact .inl ⟨_, rfl⟩

/-- A value that is no marked string is shown to the encoder of its position, if there is one. -/
theorem demand?_of_not_marked (path : SchemaPath) (v : Json) (h : isMarkedString v = false) :
    demand? schema coders path v =
      (encoderAt? schema coders path).map fun e => .encoding e.1 v := by
  cases v <;> simp_all [demand?, isMarkedString]

theorem argumentsText_value_of_not_object (path : SchemaPath) {v : Json} (h : v.isObject = false) :
    (value schema coders path v).argumentsText = (value schema coders path v).text := by
  cases v with
  | object members => simp [Json.isObject] at h
  | string s =>
    rw [value, whole?, stringValue]
    cases demand? schema coders path (.string s) with
    | none => simp only [Option.map_none, Option.getD_none]; split <;> rfl
    | some d => exact d.argumentsText_value
  | _ =>
    rw [value, whole?]
    generalize demand? schema coders path _ = d
    cases d with
    | none => rfl
    | some d => exact d.argumentsText_value

theorem text_stringValue (path : SchemaPath) (s : String) :
    (stringValue schema path s).text = stringText schema path s := by
  unfold stringValue stringText
  split <;> rfl

/-- What the encoder of a position makes of a value. -/
theorem result_encoded (schema : Schema) (coders : Coders) (path : SchemaPath) (v : Json)
    (t : VariableTable) :
    Compilation.result
      (match schema.classify path with
        | .scalar name => Compilation.lift ((coders.encode? name v).mapError .coder)
        | _ => return none) t =
      match (encoderAt? schema coders path).map fun e => Demand.encoding e.1 v with
      | some d => (d.meet coders t).map fun t' => (some (d.value coders).text, t')
      | none => .ok (none, t) := by
  unfold encoderAt?
  cases schema.classify path with
  | scalar name =>
    simp only [Compilation.result_lift]
    cases h : coders.encoder? name with
    | none => simp [Coders.encode?, h, Except.mapError, Except.map]
    | some f =>
      cases hv : f v <;>
        simp [Coders.encode?, h, hv, Demand.meet, Demand.value, QueryValue.text, Except.mapError,
          Except.map]
  | _ => rfl

/-- The text of a value as a whole is that of its demand, once the demand is met. -/
theorem result_wholeText? (path : SchemaPath) (v : Json) (t : VariableTable) :
    (wholeText? schema coders path v).result t =
      match demand? schema coders path v with
      | some d => (d.meet coders t).map fun t' => (some (d.value coders).text, t')
      | none => .ok (none, t) := by
  cases v with
  | string s =>
    cases hs : isMarked s with
    | false =>
      have henc := result_encoded schema coders path (.string s) t
      rw [demand?_of_not_marked path (.string s) hs, ← henc, wholeText?, ofText_of_not_isMarked hs]
      rfl
    | true =>
      -- a marked string is declared or malformed, and no encoder is asked either way
      rcases ofText_of_isMarked hs with ⟨x, hx⟩ | hx
      · cases hd : t.declare x <;>
          simp [wholeText?, demand?, hs, hx, hd, Demand.meet, Demand.value, QueryValue.text,
            Except.mapError, Except.map, Except.bind]
      · simp [wholeText?, demand?, hs, hx, Demand.meet, Except.mapError, Except.map, Except.bind]
  | _ => exact result_encoded schema coders path _ t

/-- A value is written as a whole or part by part, and its demands follow suit.  `print` writes the
parts: with outer braces or without. -/
theorem result_whole_or {print : QueryValue → String} {path : SchemaPath} {v : Json}
    {parts : Compilation String} {ds : List Demand} {q : QueryValue} {t : VariableTable}
    (hprint : ∀ d, print (Demand.value coders d) = (Demand.value coders d).text)
    (h : parts.result t = (Demand.replay coders ds t).map fun t' => (print q, t')) :
    Compilation.result (do
        match ← wholeText? schema coders path v with
        | some s => return s
        | none => parts) t =
      (Demand.replay coders ((demand? schema coders path v).elim ds fun d => [d]) t).map
        fun t' => (print ((whole? schema coders path v).getD q), t') := by
  rw [Compilation.result_bind, result_wholeText?, whole?]
  cases demand? schema coders path v with
  | none => exact h
  | some d =>
    -- the parts are never reached, and neither are their demands
    simp only [Option.elim, Option.map_some, Option.getD_some, Demand.replay, hprint]
    cases d.meet coders t <;> rfl

mutual

/-- **Writing a value** is meeting its demands and printing what it becomes. -/
theorem result_text (path : SchemaPath) : ∀ (v : Json) (t : VariableTable),
    (text schema coders path v).result t =
      (Demand.replay coders (demands schema coders path v) t).map
        fun t' => ((value schema coders path v).text, t')
  | .array items, t => by
    rw [text, demands, value]
    refine result_whole_or (fun _ => rfl) ?_
    rw [Compilation.result_bind, result_itemTexts path items t]
    cases Demand.replay coders (itemDemands schema coders path items) t <;> rfl
  | .object members, t => by
    rw [text, demands, value]
    refine result_whole_or (fun _ => rfl) ?_
    rw [Compilation.result_bind, result_memberTexts path members t]
    cases Demand.replay coders (memberDemands schema coders path members) t <;> rfl
  | .string s, t => by
    rw [text, demands, value]
    exact result_whole_or (fun _ => rfl) (by rw [text_stringValue]; rfl)
  | .null, t => by
    rw [text, demands, value]
    exact result_whole_or (fun _ => rfl) rfl
  | .bool b, t => by
    rw [text, demands, value]
    exact result_whole_or (fun _ => rfl) rfl
  | .number n, t => by
    rw [text, demands, value]
    exact result_whole_or (fun _ => rfl) rfl

theorem result_itemTexts (path : SchemaPath) : ∀ (vs : List Json) (t : VariableTable),
    (itemTexts schema coders path vs).result t =
      (Demand.replay coders (itemDemands schema coders path vs) t).map
        fun t' => (QueryValue.itemTexts (itemValues schema coders path vs), t')
  | [], t => rfl
  | v :: r, t => by
    simp only [itemTexts, itemDemands, itemValues, QueryValue.itemTexts, Demand.replay_append,
      Compilation.result_bind, result_text path v t]
    cases Demand.replay coders (demands schema coders path v) t with
    | error e => rfl
    | ok t₁ =>
      simp only [Except.map, Except.bind, result_itemTexts path r t₁]
      cases Demand.replay coders (itemDemands schema coders path r) t₁ <;> rfl

theorem result_memberTexts (path : SchemaPath) : ∀ (es : List (String × Json)) (t : VariableTable),
    (memberTexts schema coders path es).result t =
      (Demand.replay coders (memberDemands schema coders path es) t).map
        fun t' => (QueryValue.entryTexts (memberValues schema coders path es), t')
  | [], t => rfl
  | (k, v) :: r, t => by
    simp only [memberTexts, memberDemands, memberValues, QueryValue.entryTexts,
      Demand.replay_append, Compilation.result_bind, result_text (path.argument k) v t]
    cases Demand.replay coders (demands schema coders (path.argument k) v) t with
    | error e => rfl
    | ok t₁ =>
      simp only [Except.map, Except.bind, result_memberTexts path r t₁]
      cases Demand.replay coders (memberDemands schema coders path r) t₁ <;> rfl

end

/-- The text between the parentheses of a call is that of a value, without the outer braces where
the value is an object that is written part by part. -/
theorem result_listText (path : SchemaPath) (v : Json) (t : VariableTable) :
    (listText schema coders path v).result t =
      (Demand.replay coders (demands schema coders path v) t).map
        fun t' => ((value schema coders path v).argumentsText, t') := by
  cases v with
  | object members =>
    rw [listText, demands, value]
    refine result_whole_or Demand.argumentsText_value ?_
    rw [Compilation.result_bind, result_memberTexts path members t]
    cases Demand.replay coders (memberDemands schema coders path members) t <;> rfl
  | _ =>
    -- a value that is no object is asked twice whether it is written as a whole
    rw [argumentsText_value_of_not_object path (by rfl), ← result_text]
    unfold listText
    rw [Compilation.result_bind, result_wholeText?]
    generalize hd : demand? schema coders path _ = d
    cases d with
    | none => rfl
    | some d =>
      rw [text, Compilation.result_bind, result_wholeText?, hd]
      dsimp only
      cases d.meet coders t <;> rfl

end Argument

namespace Selection

variable (schema : Schema) (coders : Coders)

/-! ### Selections -/

mutual

/-- The demands of a member: those of its arguments before those of its body. -/
def demands (path : SchemaPath) (field : String) : Selection → List Demand
  | .leaf => []
  | .raw _ => []
  | .object members _ => memberDemands (positionBelow path field) members
  | .call arguments body =>
    Argument.demands schema coders (path.argument field) arguments ++ demands path field body

/-- The demands of the members of a set, one member after the other. -/
def memberDemands (path : SchemaPath) : List (MemberKey × Selection) → List Demand
  | [] => []
  | (k, s) :: r => demands path k.field s ++ memberDemands path r

end

/-- The text between the parentheses of a call. -/
def callText (path : SchemaPath) (field : String) (arguments : Json) : String :=
  (Argument.value schema coders (path.argument field) arguments).argumentsText

mutual

/-- The text of a member whose demands are met. -/
def written (path : SchemaPath) (key field : String) : Selection → String
  | .leaf => key
  | .raw t => key ++ " " ++ t
  | .object members directives =>
    key ++ directivesText directives ++ " " ++
      setTextOf (memberWritten (positionBelow path field) members)
  | .call arguments body =>
    written path (keyWithArguments key (callText schema coders path field arguments)) field body

/-- The texts of the members of a set whose demands are met. -/
def memberWritten (path : SchemaPath) : List (MemberKey × Selection) → List String
  | [] => []
  | (k, s) :: r => written path k.written k.field s :: memberWritten path r

end

variable {schema coders}

mutual

/-- **Writing a member** is meeting its demands and printing its text. -/
theorem result_text (path : SchemaPath) (key field : String) :
    ∀ (s : Selection) (t : VariableTable),
      (text schema coders path key field s).result t =
        (Demand.replay coders (demands schema coders path field s) t).map
          fun t' => (written schema coders path key field s, t')
  | .leaf, t => rfl
  | .raw x, t => rfl
  | .object members directives, t => by
    rw [text, demands, written, Compilation.result_bind, result_memberTexts _ members t]
    cases Demand.replay coders
      (memberDemands schema coders (positionBelow path field) members) t <;> rfl
  | .call arguments body, t => by
    rw [text, demands, written, Compilation.result_bind, Argument.result_listText,
      Demand.replay_append]
    cases Demand.replay coders
        (Argument.demands schema coders (path.argument field) arguments) t with
    | error e => rfl
    | ok t₁ =>
      -- the body is written under the key with the arguments that are known by now
      exact result_text path _ field body t₁

theorem result_memberTexts (path : SchemaPath) :
    ∀ (ms : List (MemberKey × Selection)) (t : VariableTable),
      (memberTexts schema coders path ms).result t =
        (Demand.replay coders (memberDemands schema coders path ms) t).map
          fun t' => (memberWritten schema coders path ms, t')
  | [], t => rfl
  | (k, s) :: r, t => by
    rw [memberTexts, memberDemands, memberWritten, Compilation.result_bind,
      result_text path k.written k.field s t, Demand.replay_append]
    cases Demand.replay coders (demands schema coders path k.field s) t with
    | error e => rfl
    | ok t₁ =>
      simp only [Except.map, Except.bind, Compilation.result_bind, result_memberTexts path r t₁]
      cases Demand.replay coders (memberDemands schema coders path r) t₁ <;> rfl

end

end Selection

namespace SelectionSet

/-- The demands of a set as the body of an operation. -/
def demands (schema : Schema) (coders : Coders) (operation : String) (s : SelectionSet) :
    List Demand :=
  Selection.memberDemands schema coders (SchemaPath.field [] operation) s.members

/-- The text of a set as the body of an operation, once its demands are met. -/
def written (schema : Schema) (coders : Coders) (operation : String) (s : SelectionSet) : String :=
  Selection.setTextOf
    (Selection.memberWritten schema coders (SchemaPath.field [] operation) s.members)

/-- **Writing a query** is meeting the demands of its body, starting without variables, and
printing its head and its body. -/
theorem compile_eq (schema : Schema) (coders : Coders) (operationName : Option String)
    (operation : String) (s : SelectionSet) :
    s.compile schema coders operationName operation =
      (Demand.replay coders (s.demands schema coders operation) Dictionary.empty).map
        fun declared =>
          ⟨head operation operationName declared s.directives ++ " " ++
            s.written schema coders operation, declared⟩ := by
  have hbody : (s.bodyText schema coders operation).result Dictionary.empty =
      (Demand.replay coders (s.demands schema coders operation) Dictionary.empty).map
        fun declared => (s.written schema coders operation, declared) := by
    rw [bodyText, Compilation.result_bind, Selection.result_memberTexts]
    simp only [demands, written]
    cases Demand.replay coders (Selection.memberDemands schema coders _ s.members) _ <;> rfl
  -- `compile` runs the body itself, so the run is taken out of `result` again
  unfold compile
  unfold Compilation.result at hbody
  generalize (s.bodyText schema coders operation).run Dictionary.empty = r at hbody ⊢
  rcases r with ⟨_ | body, declared⟩ <;>
    cases hr : Demand.replay coders (s.demands schema coders operation) Dictionary.empty <;>
    simp_all [Except.map]

end SelectionSet

end FieldQuery
