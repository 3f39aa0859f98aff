/-
**What a query means.**

Where no encoder writes into a query, all of its body is written by the compiler, and what is
written can be read again.  The members that are read are those of the selection, in their order
and nesting, and the arguments are the values that the selection has: a placeholder is the
variable of its name, a string where an enumeration is expected is a value of the enumeration, and
everything else is itself.

Main definitions:

* `Argument.meaning` — the value of the query language that a value means;
* `Selection.nodes` — the members that a selection means;
* `Argument.isLegible`, `Selection.isLegible` — all that becomes a name can be one.

Main results:

* `Argument.value_eq_meaning` — without encoders a value is written as what it means;
* `SelectionSet.read_of_compile` — the body of a query is read as what its selection means.
-/

import FieldQuery.Proofs.Grammar.Writing
import FieldQuery.Proofs.Query.Collection

set_option autoImplicit false

namespace FieldQuery

namespace Argument

variable (schema : Schema)

/-! ### Arguments -/

mutual

/-- The value of the query language that a value at a position means. -/
def meaning (path : SchemaPath) : Json → QueryValue
  | .null => .null
  | .bool b => .bool b
  | .number n => .number n
  | .string s =>
    match Variable.ofText s with
    | .ok (some x) => .variable x.name
    | _ => if schema.classify path = .enumeration then .enumeration s else .string s
  | .array items => .list (itemMeanings path items)
  | .object members => .object (memberMeanings path members)

/-- What elements mean, all at one position. -/
def itemMeanings (path : SchemaPath) : List Json → List QueryValue
  | [] => []
  | v :: r => meaning path v :: itemMeanings path r

/-- What entries mean, each at its position below. -/
def memberMeanings (path : SchemaPath) : List (String × Json) → List (String × QueryValue)
  | [] => []
  | (k, v) :: r => (k, meaning (path.argument k) v) :: memberMeanings path r

end

/-- A placeholder has a name for its variable, and where an enumeration is expected any other string
is a name that is not reserved. -/
def isLegibleString (path : SchemaPath) (s : String) : Bool :=
  match Variable.ofText s with
  | .ok (some x) => Grammar.isName x.name
  | _ =>
    decide (schema.classify path ≠ .enumeration) ||
      (Grammar.isName s && decide (s ∉ ["true", "false", "null"]))

mutual

/-- All strings of a value at a position are legible, and all its keys are names. -/
def isLegible (path : SchemaPath) : Json → Bool
  | .string s => isLegibleString schema path s
  | .array items => itemsLegible path items
  | .object members => membersLegible path members
  | _ => true

/-- `isLegible` of every element. -/
def itemsLegible (path : SchemaPath) : List Json → Bool
  | [] => true
  | v :: r => isLegible path v && itemsLegible path r

/-- `isLegible` of every entry, and its key is a name. -/
def membersLegible (path : SchemaPath) : List (String × Json) → Bool
  | [] => true
  | (k, v) :: r => Grammar.isName k && isLegible (path.argument k) v && membersLegible path r

end

variable {schema} {coders : Coders}

mutual

/-- What a legible value means is readable. -/
theorem readable_meaning (path : SchemaPath) : ∀ v : Json, isLegible schema path v = true →
    (meaning schema path v).Readable
  | .null, _ => trivial
  | .bool _, _ => trivial
  | .number _, _ => trivial
  | .string s, h => by
    rw [isLegible, isLegibleString] at h
    rw [meaning]
    split at h
    · exact h
    · split
      · rename_i hclassify
        simpa [hclassify, QueryValue.Readable] using h
      · trivial
  | .array items, h => by
    rw [meaning, QueryValue.Readable]
    exact itemsReadable_itemMeanings path items h
  | .object members, h => by
    rw [meaning, QueryValue.Readable]
    exact entriesReadable_memberMeanings path members h

theorem itemsReadable_itemMeanings (path : SchemaPath) : ∀ vs : List Json,
    itemsLegible schema path vs = true → QueryValue.ItemsReadable (itemMeanings schema path vs)
  | [], _ => trivial
  | v :: r, h => by
    rw [itemsLegible, Bool.and_eq_true] at h
    exact ⟨readable_meaning path v h.1, itemsReadable_itemMeanings path r h.2⟩

theorem entriesReadable_memberMeanings (path : SchemaPath) : ∀ es : List (String × Json),
    membersLegible schema path es = true →
      QueryValue.EntriesReadable (memberMeanings schema path es)
  | [], _ => trivial
  | (k, v) :: r, h => by
    rw [membersLegible, Bool.and_eq_true, Bool.and_eq_true] at h
    exact ⟨h.1.1, readable_meaning (path.argument k) v h.1.2,
      entriesReadable_memberMeanings path r h.2⟩

end

/-- Without encoders only marked strings make a demand. -/
theorem demand?_of_no_encoders (schema : Schema) (hcoders : ∀ name, coders.encoder? name = none)
    (path : SchemaPath) (v : Json) (hv : isMarkedString v = false) :
    demand? schema coders path v = none := by
  rw [demand?_of_not_marked path v hv, encoderAt?]
  split
  · rw [hcoders]
    rfl
  · rfl

mutual

/-- **Without encoders** a value whose placeholders are well-formed is written as what it means. -/
theorem value_eq_meaning (hcoders : ∀ name, coders.encoder? name = none) (path : SchemaPath) :
    ∀ v : Json,
      (∀ text, .marked text ∈ demands schema coders path v →
        ∃ x, Variable.ofText text = .ok (some x)) →
      value schema coders path v = meaning schema path v
  | .null, _ => by
    rw [value, whole?, demand?_of_no_encoders schema hcoders path .null rfl]
    rfl
  | .bool b, _ => by
    rw [value, whole?, demand?_of_no_encoders schema hcoders path (.bool b) rfl]
    rfl
  | .number n, _ => by
    rw [value, whole?, demand?_of_no_encoders schema hcoders path (.number n) rfl]
    rfl
  | .string s, h => by
    cases hs : isMarked s with
    | false =>
      rw [value, whole?, demand?_of_no_encoders schema hcoders path (.string s) hs, meaning,
        ofText_of_not_isMarked hs]
      rfl
    | true =>
      have hdemand : demand? schema coders path (.string s) = some (.marked s) := by
        simp [demand?, hs]
      obtain ⟨x, hx⟩ := h s (by simp [demands, hdemand])
      rw [value, whole?, hdemand, meaning, hx]
      simp [Demand.value, hx]
  | .array items, h => by
    have hdemand := demand?_of_no_encoders schema hcoders path (.array items) rfl
    rw [demands, hdemand] at h
    rw [value, whole?, hdemand, meaning, itemValues_eq_itemMeanings hcoders path items h]
    rfl
  | .object members, h => by
    have hdemand := demand?_of_no_encoders schema hcoders path (.object members) rfl
    rw [demands, hdemand] at h
    rw [value, whole?, hdemand, meaning, memberValues_eq_memberMeanings hcoders path members h]
    rfl

theorem itemValues_eq_itemMeanings (hcoders : ∀ name, coders.encoder? name = none)
    (path : SchemaPath) : ∀ vs : List Json,
      (∀ text, .marked text ∈ itemDemands schema coders path vs →
        ∃ x, Variable.ofText text = .ok (some x)) →
      itemValues schema coders path vs = itemMeanings schema path vs
  | [], _ => rfl
  | v :: r, h => by
    rw [itemDemands] at h
    rw [itemValues, itemMeanings,
      value_eq_meaning hcoders path v fun t ht => h t (List.mem_append_left _ ht),
      itemValues_eq_itemMeanings hcoders path r fun t ht => h t (List.mem_append_right _ ht)]

theorem memberValues_eq_memberMeanings (hcoders : ∀ name, coders.encoder? name = none)
    (path : SchemaPath) : ∀ es : List (String × Json),
      (∀ text, .marked text ∈ memberDemands schema coders path es →
        ∃ x, Variable.ofText text = .ok (some x)) →
      memberValues schema coders path es = memberMeanings schema path es
  | [], _ => rfl
  | (k, v) :: r, h => by
    rw [memberDemands] at h
    rw [memberValues, memberMeanings,
      value_eq_meaning hcoders (path.argument k) v fun t ht => h t (List.mem_append_left _ ht),
      memberValues_eq_memberMeanings hcoders path r fun t ht => h t (List.mem_append_right _ ht)]

end

end Argument

namespace Selection

/-! ### Members -/

/-- The type in the key of a fragment that stands in place. -/
def fragmentType? (key : String) : Option String :=
  (List.isPrefixOf? "... on ".toList key.toList).map String.ofList

/-- The member is a call. -/
def isCall : Selection → Bool
  | call _ _ => true
  | _ => false

variable (schema : Schema)

/-- The entries that the arguments of a field mean. -/
def argumentMeanings (path : SchemaPath) : Json → List (String × QueryValue)
  | .object members => Argument.memberMeanings schema path members
  | _ => []

mutual

/-- The member that a selection means, once its arguments are known. -/
def node (path : SchemaPath) (key : MemberKey) (arguments : List (String × QueryValue)) :
    Selection → QueryNode
  | .leaf => .leaf key arguments
  | .raw _ => .leaf key arguments
  | .object members _ =>
    match fragmentType? key.field with
    | some type => .fragment type (nodes (positionBelow path key.field) members)
    | none => .set key arguments (nodes (positionBelow path key.field) members)
  | .call args body => node path key (argumentMeanings schema (path.argument key.field) args) body

/-- The members that the members of a set mean. -/
def nodes (path : SchemaPath) : List (MemberKey × Selection) → List QueryNode
  | [] => []
  | (k, s) :: r => node path k [] s :: nodes path r

end

/-- The key of a fragment on a type, and no other name. -/
def isFragmentKey : MemberKey → Bool
  | .plain key => (fragmentType? key).any Grammar.isName
  | .aliased _ _ => false

mutual

/-- Keys are names, or the members stand in place in a fragment on a type; there is no raw text,
there are no directives, a call is of no other call, its arguments are an object, and they are
legible. -/
def isLegible (path : SchemaPath) (key : MemberKey) : Selection → Bool
  | .leaf => QueryNode.isKey key
  | .raw _ => false
  | .object members directives =>
    directives.isNone && (QueryNode.isKey key || isFragmentKey key) &&
      membersLegible (positionBelow path key.field) members
  | .call arguments body =>
    QueryNode.isKey key && !isCall body && arguments.isObject &&
      Argument.isLegible schema (path.argument key.field) arguments && isLegible path key body

/-- `isLegible` of every member of a set. -/
def membersLegible (path : SchemaPath) : List (MemberKey × Selection) → Bool
  | [] => true
  | (k, s) :: r => isLegible path k s && membersLegible path r

end

variable {schema} {coders : Coders}

/-- A name is no key of a fragment. -/
theorem fragmentType?_of_isName {key : String} (h : Grammar.isName key = true) :
    fragmentType? key = none := by
  unfold Grammar.isName at h
  unfold fragmentType?
  cases hk : key.toList with
  | nil => rfl
  | cons c r =>
    rw [hk, Bool.and_eq_true] at h
    have hc : c ≠ '.' := by
      rintro rfl
      exact absurd h.1 (by decide)
    have hstart : ('.' == c) = false := by simpa using fun e : '.' = c => hc e.symm
    simp [List.isPrefixOf?, hstart]

theorem fragmentType?_of_isKey {key : MemberKey} (h : QueryNode.isKey key = true) :
    fragmentType? key.field = none := by
  cases key with
  | plain key => exact fragmentType?_of_isName h
  | aliased alternative field =>
    rw [QueryNode.isKey, Bool.and_eq_true] at h
    exact fragmentType?_of_isName h.2

/-- The key of a fragment on a type is written as one. -/
theorem exists_type_of_isFragmentKey {key : MemberKey} (h : isFragmentKey key = true) :
    ∃ type, key.written = "... on " ++ type ∧ fragmentType? key.field = some type ∧
      Grammar.isName type = true := by
  cases key with
  | aliased alternative field => cases h
  | plain key =>
    rw [isFragmentKey] at h
    cases htype : fragmentType? key with
    | none =>
      rw [htype] at h
      cases h
    | some type =>
      rw [htype] at h
      obtain ⟨rest, hrest, rfl⟩ := Option.map_eq_some_iff.1 htype
      have hkey : "... on ".toList ++ rest = key.toList :=
        List.isPrefixOf?_eq_some_iff_append_eq.1 hrest
      have hlist : (String.ofList rest).toList = rest := String.toList_ofList
      refine ⟨String.ofList rest, ?_, htype, h⟩
      rw [MemberKey.written, ← String.toList_inj, ← hkey, String.toList_append, hlist]

theorem entriesReadable_argumentMeanings {path : SchemaPath} {arguments : Json}
    (h : Argument.isLegible schema path arguments = true) :
    QueryValue.EntriesReadable (argumentMeanings schema path arguments) := by
  cases arguments with
  | object members => exact Argument.entriesReadable_memberMeanings path members h
  | _ => trivial

mutual

/-- What a legible member means is readable. -/
theorem readable_node (path : SchemaPath) (key : MemberKey) :
    ∀ (s : Selection) {es : List (String × QueryValue)}, isLegible schema path key s = true →
      QueryValue.EntriesReadable es → (node schema path key es s).Readable
  | .leaf, es, h, hes => ⟨h, hes⟩
  | .raw _, es, h, _ => by cases h
  | .object members _, es, h, hes => by
    rw [isLegible, Bool.and_eq_true, Bool.and_eq_true, Bool.or_eq_true] at h
    obtain ⟨⟨-, hkey⟩, hlegible⟩ := h
    have hmembers := membersReadable_nodes _ members hlegible
    rw [node]
    rcases hkey with hkey | hkey
    · rw [fragmentType?_of_isKey hkey]
      exact ⟨hkey, hes, hmembers⟩
    · obtain ⟨type, -, htype, hname⟩ := exists_type_of_isFragmentKey hkey
      rw [htype]
      exact ⟨hname, hmembers⟩
  | .call arguments body, es, h, _ => by
    rw [isLegible, Bool.and_eq_true, Bool.and_eq_true] at h
    rw [node]
    exact readable_node path key body h.2 (entriesReadable_argumentMeanings h.1.2)

theorem membersReadable_nodes (path : SchemaPath) : ∀ ms : List (MemberKey × Selection),
    membersLegible schema path ms = true → QueryNode.MembersReadable (nodes schema path ms)
  | [], _ => trivial
  | (k, s) :: r, h => by
    rw [membersLegible, Bool.and_eq_true] at h
    exact ⟨readable_node path k s h.1 trivial, membersReadable_nodes path r h.2⟩

end

/-- Without encoders the arguments of a call are written as what they mean. -/
theorem callText_eq (hcoders : ∀ name, coders.encoder? name = none) {path : SchemaPath}
    {field : String} {arguments : Json} (hobject : arguments.isObject = true)
    (hmarks : ∀ text,
      .marked text ∈ Argument.demands schema coders (path.argument field) arguments →
        ∃ x, Variable.ofText text = .ok (some x)) :
    callText schema coders path field arguments =
      (QueryValue.object
        (argumentMeanings schema (path.argument field) arguments)).argumentsText := by
  rw [callText, Argument.value_eq_meaning hcoders _ arguments hmarks]
  cases arguments with
  | object members => rfl
  | _ => cases hobject

mutual

/-- Without encoders a legible member is written as what it means: a key that is no name has no
arguments, and a member that has arguments already is no call. -/
theorem written_eq_text (hcoders : ∀ name, coders.encoder? name = none) (path : SchemaPath)
    (key : MemberKey) :
    ∀ (s : Selection) {es : List (String × QueryValue)}, isLegible schema path key s = true →
      (es = [] ∨ QueryNode.isKey key = true ∧ isCall s = false) →
      (∀ text, .marked text ∈ demands schema coders path key.field s →
        ∃ x, Variable.ofText text = .ok (some x)) →
      written schema coders path (QueryNode.fieldText key es) key.field s =
        (node schema path key es s).text
  | .leaf, es, _, _, _ => rfl
  | .raw _, es, h, _, _ => by cases h
  | .object members directives, es, h, hes, hmarks => by
    rw [isLegible, Bool.and_eq_true, Bool.and_eq_true, Bool.or_eq_true] at h
    obtain ⟨⟨hdirectives, hkey⟩, hmembers⟩ := h
    obtain rfl : directives = none := Option.isNone_iff_eq_none.1 hdirectives
    rw [demands] at hmarks
    rw [written, memberWritten_eq_memberTexts hcoders _ members hmembers hmarks, node,
      directivesText, String.append_empty]
    rcases hkey with hkey | hkey
    · rw [fragmentType?_of_isKey hkey]
      rfl
    · obtain ⟨type, hwritten, htype, -⟩ := exists_type_of_isFragmentKey hkey
      -- a fragment is not called: the key of a call is a name
      obtain rfl : es = [] := by
        rcases hes with hes | ⟨hname, -⟩
        · exact hes
        · rw [fragmentType?_of_isKey hname] at htype
          cases htype
      have hfield : QueryNode.fieldText key [] = "... on " ++ type := hwritten
      rw [hfield, htype]
      rfl
  | .call arguments body, es, h, hes, hmarks => by
    simp only [isLegible, Bool.and_eq_true, Bool.not_eq_true'] at h
    obtain ⟨⟨⟨⟨hkey, hbody⟩, hobject⟩, -⟩, hlegible⟩ := h
    -- the arguments of this call are the first, because a call is of no other call
    obtain rfl : es = [] := hes.resolve_right fun h => by cases h.2
    rw [demands] at hmarks
    rw [written, node, callText_eq hcoders hobject fun t ht => hmarks t (List.mem_append_left _ ht)]
    exact written_eq_text hcoders path key body hlegible (.inr ⟨hkey, hbody⟩)
      fun t ht => hmarks t (List.mem_append_right _ ht)

theorem memberWritten_eq_memberTexts (hcoders : ∀ name, coders.encoder? name = none)
    (path : SchemaPath) :
    ∀ ms : List (MemberKey × Selection), membersLegible schema path ms = true →
      (∀ text, .marked text ∈ memberDemands schema coders path ms →
        ∃ x, Variable.ofText text = .ok (some x)) →
      memberWritten schema coders path ms = QueryNode.memberTexts (nodes schema path ms)
  | [], _, _ => rfl
  | (k, s) :: r, h, hmarks => by
    rw [membersLegible, Bool.and_eq_true] at h
    rw [memberDemands] at hmarks
    have hs := written_eq_text hcoders path k s h.1 (.inl rfl)
      fun t ht => hmarks t (List.mem_append_left _ ht)
    rw [memberWritten, nodes, QueryNode.memberTexts, ← hs,
      memberWritten_eq_memberTexts hcoders path r h.2
        fun t ht => hmarks t (List.mem_append_right _ ht)]
    rfl

end

end Selection

namespace SelectionSet

/-- **The body of a query means its selection.**  Where no scalar has an encoder and all that
becomes a name can be one, the text that follows operation, name, declarations and a blank is read
to its end as a set with the members that the selection means. -/
theorem read_of_compile {schema : Schema} {coders : Coders} {operationName : Option String}
    {operation : String} {s : SelectionSet} {q : CompiledQuery}
    (hcoders : ∀ name, coders.encoder? name = none) (hdirectives : s.directives = none)
    (hlegible : Selection.membersLegible schema (SchemaPath.field [] operation) s.members = true)
    (h : s.compile schema coders operationName operation = .ok q) :
    ∃ body,
      q.text = operation ++ operationName.elim "" (" " ++ ·) ++ declarationsText q.declared ++
        " " ++ body ∧
      Grammar.read body = some (Selection.nodes schema (SchemaPath.field [] operation) s.members) := by
  obtain ⟨-, hclean, htext⟩ := of_compile_eq_ok h
  refine ⟨s.written schema coders operation, ?_, ?_⟩
  · rw [htext, head_eq, hdirectives, Selection.directivesText, String.append_empty]
  · -- a query that was written has met all its marked strings
    have hmarks : ∀ text, .marked text ∈ s.demands schema coders operation →
        ∃ x, Variable.ofText text = .ok (some x) := fun text htext =>
      hclean.ofText_of_mem htext (Selection.isMarked_of_mem_memberDemands _ s.members htext)
    rw [written, Selection.memberWritten_eq_memberTexts hcoders _ s.members hlegible hmarks]
    exact Grammar.read_setText (Selection.membersReadable_nodes _ s.members hlegible)

/-- A schema in which tokens are ordered by an enumeration. -/
def orderSchema : Schema :=
  ⟨.ofEntries [("query", "Query")],
    .ofEntries [
      ("Query", .fields (.ofEntries
        [("token", .arguments (.ofEntries [("by", "Order"), ("where", "Filter")]))])),
      ("Filter", .fields (.ofEntries [("name", .type "String")])),
      ("Order", .enumeration)],
    .empty⟩

/-- Tokens under another name, with arguments of every kind, and a fragment. -/
def orderedTokens : SelectionSet :=
  ⟨[(.aliased "t" "token", .call
      (.object [("by", .array [.string "asc", .string "$qsel:o::$type::Order!"]),
        ("where", .object [("name", .string "a\"\x7d) \x7b"), ("none", .object [])]),
        ("limit", .number (.double ⟨true, ⟨4609434218613702656, by decide⟩⟩)),
        ("of", .array [.null, .bool true])])
      (.object [(.plain "id", .leaf), (.plain "owner", .object [] none)] none)),
    (.plain "... on Query", .object [(.plain "now", .call (.object []) .leaf)] none)], none⟩

/-- The body that is written for these tokens is read as the members and the values that they are
made of. -/
theorem read_orderedTokens :
    orderedTokens.directives = none ∧
      Selection.membersLegible orderSchema (SchemaPath.field [] "query") orderedTokens.members =
        true ∧
      ∃ text body,
        orderedTokens.compile orderSchema .empty (some "q") "query" =
          .ok ⟨text, .ofEntries [("o", "Order!")]⟩ ∧
        text = "query q($o: Order!) " ++ body ∧
        Grammar.read body = some
          [.set (.aliased "t" "token")
            [("by", .list [.enumeration "asc", .variable "o"]),
              ("where", .object [("name", .string "a\"\x7d) \x7b"), ("none", .object [])]),
              ("limit", .number (.double ⟨true, ⟨4609434218613702656, by decide⟩⟩)),
              ("of", .list [.null, .bool true])]
            [.leaf (.plain "id") [], .set (.plain "owner") [] []],
          .fragment "Query" [.leaf (.plain "now") []]] := by
  have hlegible : Selection.membersLegible orderSchema (SchemaPath.field [] "query")
      orderedTokens.members = true := by decide +kernel
  have h : orderedTokens.compile orderSchema .empty (some "q") "query" =
      .ok ⟨"query q($o: Order!) \x7b t:token(by: [asc, $o], " ++
          "where: \x7bname: \"a\\\"\x7d) \x7b\", none: \x7b\x7d\x7d, limit: -1.5, of: [null, true]) " ++
          "\x7b id owner \x7b\x7d \x7d ... on Query \x7b now \x7d \x7d",
        .ofEntries [("o", "Order!")]⟩ := by
    decide +kernel
  obtain ⟨body, htext, hread⟩ := read_of_compile (fun _ => rfl) rfl hlegible h
  exact ⟨rfl, hlegible, _, body, h, htext, hread⟩

end SelectionSet

end FieldQuery
