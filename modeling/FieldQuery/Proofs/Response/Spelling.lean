/-
**Two spellings of an alias.**

A member can be given an alias of its own, or the alias can be written in its key, before a colon.
The query is the same text either way.  What is decoded is not: a key is purified as a whole where
the response is concerned too, so a member with the alias in its key is looked for under the name
of its field, while the server answers under the alias.

Main definitions:

* `MemberKey.Respelled` — one key with an alias, with the alias written in the key, and without an
  alias;
* `Selection.Respelled`, `Selection.MembersRespelled` — the same of selections, of which any number
  of members may be respelled.

Main results:

* `Key.purify_inline` — the bare name of a key with an alias in it is the name of the field;
* `Selection.text_of_respelled` — the text of a member does not depend on the spelling;
* `SelectionSet.compile_decodeResponse_of_respelled` — **a respelled selection compiles to the same
  query, and is decoded like the selection without the aliases**;
* `SelectionSet.decodeResponse_of_inline_alias` — a scalar under an alias in a key is not decoded.
-/

import FieldQuery.Proofs.Grammar.Token
import FieldQuery.Proofs.Selection.Key
import FieldQuery.Query.Compile
import FieldQuery.Response.Decode
import FieldQuery.Scalar.Stock
import Mathlib

set_option autoImplicit false

namespace FieldQuery

/-! ### Names -/

namespace Grammar

theorem isNameContinue_of_isNameStart {c : Char} (h : isNameStart c = true) :
    isNameContinue c = true := by
  rw [isNameStart, Bool.or_eq_true] at h
  rw [isNameContinue, Char.isAlphanum, Bool.or_eq_true, Bool.or_eq_true]
  exact h.imp_left .inl

/-- The characters of a name. -/
theorem isNameContinue_of_mem {s : String} (h : isName s = true) :
    ∀ c ∈ s.toList, isNameContinue c = true := by
  unfold isName at h
  cases hs : s.toList with
  | nil => simp
  | cons c r =>
    rw [hs, Bool.and_eq_true] at h
    rw [List.forall_mem_cons]
    exact ⟨isNameContinue_of_isNameStart h.1, List.all_eq_true.1 h.2⟩

/-- No character of a name is a blank. -/
theorem isBlank_of_isNameContinue {c : Char} (h : isNameContinue c = true) :
    Text.isBlank c = false := by
  have hrange : 48 ≤ c.toNat ∧ c.toNat ≤ 122 := by
    simp only [isNameContinue, Char.isAlphanum, Char.isAlpha, Char.isUpper, Char.isLower,
      Char.isDigit, Bool.or_eq_true, Bool.and_eq_true, decide_eq_true_eq, ge_iff_le,
      UInt32.le_iff_toNat_le] at h
    change ((((65 ≤ c.toNat ∧ c.toNat ≤ 90) ∨ (97 ≤ c.toNat ∧ c.toNat ≤ 122)) ∨
      (48 ≤ c.toNat ∧ c.toNat ≤ 57)) ∨ c = '_') at h
    rcases h with h | rfl
    · omega
    · decide
  simp only [Text.isBlank, Bool.or_eq_false_iff, Bool.and_eq_false_iff, decide_eq_false_iff_not,
    beq_eq_false_iff_ne]
  omega

end Grammar

namespace Key

/-- A name is a clean key. -/
theorem isClean_of_isName {s : String} (h : Grammar.isName s = true) : IsClean s := by
  have hcs := Grammar.isNameContinue_of_mem h
  refine ⟨fun hmem => ?_, fun hsub => ?_, fun c hc => ?_, fun c hc => ?_⟩
  · exact absurd (hcs _ hmem) (by decide)
  · exact absurd (hcs _ (hsub.subset List.mem_cons_self)) (by decide)
  · exact Grammar.isBlank_of_isNameContinue (hcs c (List.mem_of_mem_head? hc))
  · exact Grammar.isBlank_of_isNameContinue (hcs c (List.mem_of_mem_getLast? hc))

theorem not_mem_of_isName {s : String} (h : Grammar.isName s = true) : '(' ∉ s.toList :=
  fun hmem => absurd (Grammar.isNameContinue_of_mem h _ hmem) (by decide)

theorem purify_of_isName {s : String} (h : Grammar.isName s = true) : purify s = s :=
  purify_of_isClean (isClean_of_isName h)

/-- **The bare name of a key with an alias in it** is the name of the field. -/
theorem purify_inline {alternative field : String} (ha : Grammar.isName alternative = true)
    (hf : Grammar.isName field = true) : purify (alternative ++ ":" ++ field) = field := by
  have h : purify (alternative ++ ":" ++ field ++ groupsText []) = field :=
    purify_alias (not_mem_of_isName ha) (isClean_of_isName hf) (not_mem_of_isName hf)
      (List.forall_mem_nil _)
  rwa [groupsText, List.map_nil, String.join_nil, String.append_empty] at h

/-- A key that starts with a name is no fragment. -/
theorem isInlineFragment_of_isName_append {s : String} (h : Grammar.isName s = true)
    (rest : String) : isInlineFragment (s ++ rest) = false := by
  unfold isInlineFragment
  have hcs := Grammar.isNameContinue_of_mem h
  unfold Grammar.isName at h
  rw [String.toList_append]
  cases hs : s.toList with
  | nil => simp [hs] at h
  | cons c r =>
    have hc : Grammar.isNameContinue c = true := hcs c (by rw [hs]; exact List.mem_cons_self)
    have hdot : ('.' == c) = false := by
      rw [beq_eq_false_iff_ne]
      rintro rfl
      exact absurd hc (by decide)
    rw [List.cons_append, Text.trimStart,
      List.dropWhile_cons_of_neg (by simp [Grammar.isBlank_of_isNameContinue hc]), List.isPrefixOf,
      hdot, Bool.false_and]

theorem isInlineFragment_of_isName {s : String} (h : Grammar.isName s = true) :
    isInlineFragment s = false := by
  simpa using isInlineFragment_of_isName_append h ""

end Key

/-! ### Respelled selections -/

/-- One key three times: as it is, with an alias that it has written in the key, and without the
alias.  A key may also be left as it is. -/
inductive MemberKey.Respelled : MemberKey → MemberKey → MemberKey → Prop
  | same (k : MemberKey) : Respelled k k k
  | inline {alternative field : String} (alternative_name : Grammar.isName alternative = true)
      (field_name : Grammar.isName field = true) :
      Respelled (.aliased alternative field) (.plain (alternative ++ ":" ++ field)) (.plain field)

mutual

/-- One selection three times: as it is, with the aliases of some members written in their keys, and
without these aliases. -/
inductive Selection.Respelled : Selection → Selection → Selection → Prop
  | leaf : Respelled .leaf .leaf .leaf
  | raw (text : String) : Respelled (.raw text) (.raw text) (.raw text)
  | object {ms ms' ms'' : List (MemberKey × Selection)} (directives : Option String)
      (members : MembersRespelled ms ms' ms'') :
      Respelled (.object ms directives) (.object ms' directives) (.object ms'' directives)
  | call {b b' b'' : Selection} (arguments : Json) (body : Respelled b b' b'') :
      Respelled (.call arguments b) (.call arguments b') (.call arguments b'')

/-- The members of a set three times in the same way. -/
inductive Selection.MembersRespelled : List (MemberKey × Selection) →
    List (MemberKey × Selection) → List (MemberKey × Selection) → Prop
  | nil : MembersRespelled [] [] []
  | cons {k k' k'' : MemberKey} {s s' s'' : Selection}
      {ms ms' ms'' : List (MemberKey × Selection)} (key : k.Respelled k' k'')
      (selection : Respelled s s' s'') (rest : MembersRespelled ms ms' ms'') :
      MembersRespelled ((k, s) :: ms) ((k', s') :: ms') ((k'', s'') :: ms'')

end

/-- Two fields are the same as far as positions are concerned. -/
def Key.Alike (field field' : String) : Prop :=
  Key.purify field' = Key.purify field ∧ Key.isInlineFragment field' = Key.isInlineFragment field

namespace MemberKey.Respelled

variable {k k' k'' : MemberKey}

theorem written_eq (h : k.Respelled k' k'') : k'.written = k.written := by
  cases h <;> rfl

/-- The field that is meant does not depend on the spelling. -/
theorem alike (h : k.Respelled k' k'') : Key.Alike k.field k'.field := by
  cases h with
  | same => exact ⟨rfl, rfl⟩
  | inline ha hf =>
    refine ⟨(Key.purify_inline ha hf).trans (Key.purify_of_isName hf).symm, ?_⟩
    rw [field, field, String.append_assoc, Key.isInlineFragment_of_isName_append ha,
      Key.isInlineFragment_of_isName hf]

/-- A key with an alias in it is that of the field without alias, for the field and for the answer
alike. -/
theorem alike_plain (h : k.Respelled k' k'') :
    Key.Alike k''.field k'.field ∧ Key.purify k'.answer = Key.purify k''.answer := by
  have hfield := h.alike
  cases h with
  | same => exact ⟨⟨rfl, rfl⟩, rfl⟩
  | inline => exact ⟨hfield, hfield.1⟩

end MemberKey.Respelled

namespace Selection

variable {schema : Schema} {coders : Coders}

/-! ### Text -/

theorem positionBelow_of_alike {field field' : String} (h : Key.Alike field field')
    (path : SchemaPath) : positionBelow path field' = positionBelow path field := by
  rw [positionBelow, positionBelow, h.2, SchemaPath.field, SchemaPath.field, h.1]

theorem argument_of_alike {field field' : String} (h : Key.Alike field field')
    (path : SchemaPath) : path.argument field' = path.argument field := by
  rw [SchemaPath.argument, SchemaPath.argument, h.1]

mutual

/-- **The text of a member** does not depend on the spelling of its aliases. -/
theorem text_of_respelled {field field' : String} (hfield : Key.Alike field field')
    (path : SchemaPath) (key : String) : ∀ {s s' s'' : Selection}, s.Respelled s' s'' →
      text schema coders path key field' s' = text schema coders path key field s
  | _, _, _, .leaf => rfl
  | _, _, _, .raw _ => rfl
  | _, _, _, .object _ members => by
    rw [text, text, positionBelow_of_alike hfield, memberTexts_of_respelled _ members]
  | _, _, _, .call arguments body => by
    rw [text, text, argument_of_alike hfield]
    simp only [text_of_respelled hfield path _ body]

theorem memberTexts_of_respelled (path : SchemaPath) :
    ∀ {ms ms' ms'' : List (MemberKey × Selection)}, MembersRespelled ms ms' ms'' →
      memberTexts schema coders path ms' = memberTexts schema coders path ms
  | _, _, _, .nil => rfl
  | _, _, _, .cons key selection rest => by
    rw [memberTexts, memberTexts, key.written_eq, text_of_respelled key.alike path _ selection,
      memberTexts_of_respelled path rest]

end

/-! ### Scalars -/

theorem child_of_purify_eq {answer answer' : String} (h : Key.purify answer' = Key.purify answer)
    (position : ResponsePath) : position.child answer' = position.child answer := by
  rw [ResponsePath.child, ResponsePath.child, h]

theorem leafPath_of_alike {field field' answer answer' : String} (hfield : Key.Alike field field')
    (hanswer : Key.purify answer' = Key.purify answer) (root : String) (position : ResponsePath)
    (fields : List String) :
    leafPath schema root position fields answer' field' =
      leafPath schema root position fields answer field := by
  rw [leafPath, leafPath, hfield.1, child_of_purify_eq hanswer]

mutual

/-- The scalars of a member with aliases in keys are those of the member without the aliases. -/
theorem scalarPaths_of_respelled {field field' answer answer' : String}
    (hfield : Key.Alike field field') (hanswer : Key.purify answer' = Key.purify answer)
    (root : String) (position : ResponsePath) (fields : List String) :
    ∀ {s s' s'' : Selection}, s.Respelled s' s'' →
      scalarPaths schema root position fields answer' field' s' =
        scalarPaths schema root position fields answer field s''
  | _, _, _, .leaf => leafPath_of_alike hfield hanswer root position fields
  | _, _, _, .raw _ => leafPath_of_alike hfield hanswer root position fields
  | _, _, _, .object _ members => by
    rw [scalarPaths, scalarPaths, hfield.1, hfield.2, child_of_purify_eq hanswer]
    simp only [memberScalarPaths_of_respelled root _ _ members]
  | _, _, _, .call _ body => by
    rw [scalarPaths, scalarPaths]
    exact scalarPaths_of_respelled hfield hanswer root position fields body

theorem memberScalarPaths_of_respelled (root : String) (position : ResponsePath)
    (fields : List String) : ∀ {ms ms' ms'' : List (MemberKey × Selection)},
      MembersRespelled ms ms' ms'' →
      memberScalarPaths schema root position fields ms' =
        memberScalarPaths schema root position fields ms''
  | _, _, _, .nil => rfl
  | _, _, _, .cons key selection rest => by
    rw [memberScalarPaths, memberScalarPaths,
      scalarPaths_of_respelled key.alike_plain.1 key.alike_plain.2 root position fields selection,
      memberScalarPaths_of_respelled root position fields rest]

end

end Selection

namespace SelectionSet

/-- **Aliases written in keys.**  A selection with the aliases of some members written in their keys
compiles to the query that it compiles to with the aliases of the members, and its responses are
decoded as if these members had no alias. -/
theorem compile_decodeResponse_of_respelled (schema : Schema) (coders : Coders)
    (operationName : Option String) (operation : String) (directives : Option String)
    {ms ms' ms'' : List (MemberKey × Selection)} (h : Selection.MembersRespelled ms ms' ms'') :
    compile schema coders operationName operation ⟨ms', directives⟩ =
      compile schema coders operationName operation ⟨ms, directives⟩ ∧
    ∀ data, decodeResponse schema coders operation ⟨ms', directives⟩ data =
      decodeResponse schema coders operation ⟨ms'', directives⟩ data := by
  constructor
  · unfold compile bodyText
    rw [Selection.memberTexts_of_respelled _ h]
  · intro data
    unfold decodeResponse scalarPaths
    rw [Selection.memberScalarPaths_of_respelled _ _ _ h]

/-! ### The supply of a token -/

/-- A schema in which tokens have a supply, which is a custom scalar. -/
def supplySchema : Schema :=
  ⟨.ofEntries [("query", "Query")], .empty,
    .ofEntries [("Query", .fields (.ofEntries [("token", "Token")])),
      ("Token", .fields (.ofEntries [("supply", "numeric")])), ("numeric", .scalar "numeric")]⟩

/-- Numbers are received as strings. -/
def supplyCoders : Coders := Coders.withCoder .empty "numeric" StockCodec.numericString.coder

/-- The supply of a token, under keys of one's choice. -/
def supplyUnder (token supply : MemberKey) : SelectionSet :=
  ⟨[(token, .object [(supply, .leaf)] none)], none⟩

/-- The data of a response with one member inside another. -/
def nested (outer inner : String) (v : Json) : Json := .object [(outer, .object [(inner, v)])]

/-- With both aliases written in keys the query is the same, and a response is decoded that carries
the supply under the names of the fields. -/
theorem compile_decodeResponse_of_inline_supply :
    Selection.MembersRespelled (supplyUnder (.aliased "t" "token") (.aliased "s" "supply")).members
        (supplyUnder (.plain "t:token") (.plain "s:supply")).members
        (supplyUnder (.plain "token") (.plain "supply")).members ∧
      (supplyUnder (.plain "t:token") (.plain "s:supply")).compile supplySchema supplyCoders none
          "query" = .ok ⟨"query \x7b t:token \x7b s:supply \x7d \x7d", .empty⟩ ∧
      (supplyUnder (.plain "t:token") (.plain "s:supply")).decodeResponse supplySchema supplyCoders
          "query" (nested "token" "supply" (.string "7")) =
        .ok (nested "token" "supply" (.number (.whole ⟨7, by decide, by decide⟩))) := by
  have h : Selection.MembersRespelled
      (supplyUnder (.aliased "t" "token") (.aliased "s" "supply")).members
      (supplyUnder (.plain "t:token") (.plain "s:supply")).members
      (supplyUnder (.plain "token") (.plain "supply")).members :=
    .cons (.inline (by decide) (by decide))
      (.object none (.cons (.inline (by decide) (by decide)) .leaf .nil)) .nil
  obtain ⟨hcompile, hdecode⟩ :=
    compile_decodeResponse_of_respelled supplySchema supplyCoders none "query" none h
  refine ⟨h, hcompile.trans ?_, (hdecode _).trans ?_⟩
  · decide +kernel
  · decide +kernel

/-- **A scalar under an alias in a key** is not decoded where the server answers, though it is under
an alias of the member and the query is the same. -/
theorem decodeResponse_of_inline_alias :
    (supplyUnder (.plain "t:token") (.plain "s:supply")).compile supplySchema supplyCoders none
        "query" =
      (supplyUnder (.aliased "t" "token") (.aliased "s" "supply")).compile supplySchema supplyCoders
        none "query" ∧
    (supplyUnder (.aliased "t" "token") (.aliased "s" "supply")).decodeResponse supplySchema
        supplyCoders "query" (nested "t" "s" (.string "7")) =
      .ok (nested "t" "s" (.number (.whole ⟨7, by decide, by decide⟩))) ∧
    (supplyUnder (.plain "t:token") (.plain "s:supply")).decodeResponse supplySchema supplyCoders
        "query" (nested "t" "s" (.string "7")) =
      .ok (nested "t" "s" (.string "7")) := by
  decide +kernel

end SelectionSet

end FieldQuery
