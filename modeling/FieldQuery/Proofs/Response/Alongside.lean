/-
**Decoding along the selection.**

Decoding a response consults a table of positions that was made beforehand.  The same can be done
without any positions: the response is walked together with the forest of its selection, and the
type that the fields lead to says what is done with a leaf.  Where the forest is coherent, the two
agree on every response, in results and in errors.

Main definitions:

* `Treatment` — what is done with a value: it is kept, decoded or entered;
* `FieldTree.treatment` — what a forest says about the values under a name;
* `Treatment.apply` — a value treated, elements of arrays one by one;
* `SelectionSet.decodeAlong` — the data of a response decoded along the selection.

Main results:

* `Treatment.decodeAt_eq_apply` — decoding by the table is treating values as the forest says;
* `SelectionSet.decodeResponse_eq_decodeAlong` — the data of a response is decoded along the
  selection.
-/

import FieldQuery.Proofs.Response.Forest
import FieldQuery.Proofs.Response.Untouched
import Mathlib.Data.List.Basic

set_option autoImplicit false

namespace FieldQuery

/-- An error as it is seen from a position further up. -/
def DecodeError.under (position : ResponsePath) (e : DecodeError) : DecodeError :=
  { e with path := position ++ e.path }

theorem DecodeError.under_under (p q : ResponsePath) (e : DecodeError) :
    (e.under q).under p = e.under (p ++ q) := by
  simp [under]

/-! ### Without positions -/

/-- What is done with a value: it is kept, it is decoded, or, on a type, it is entered along the
members that were asked for. -/
inductive Treatment where
  | keep
  | decode (found : String × (Json → Except CoderError Json))
  | enter (type : Option String) (f : List FieldTree)

namespace FieldTree

/-- The scalar that a type is described as, and its decoder, where it has one. -/
def decoderOf? (schema : Schema) (coders : Coders) (type : Option String) :
    Option (String × (Json → Except CoderError Json)) := do
  let scalar ← type.bind schema.scalarOf?
  let decoder ← coders.decoder? scalar
  return (scalar, decoder)

/-- What a forest on a type says about the values under a name: a leaf is decoded if the type of
its field has a decoder, nodes are entered along all that was asked for below them, and what was
not asked for is kept. -/
def treatment (schema : Schema) (coders : Coders) (type : Option String) (f : List FieldTree)
    (name : String) : Treatment :=
  match f.find? fun t => t.answer = name with
  | none => .keep
  | some (leaf _ field) =>
    match decoderOf? schema coders (typeAfter schema type field) with
    | none => .keep
    | some found => .decode found
  | some (node _ field _) => .enter (typeAfter schema type field) (merged name f)

end FieldTree

namespace Treatment

mutual

/-- A value treated.  The elements of an array are treated one by one. -/
def apply (schema : Schema) (coders : Coders) : Treatment → Json → Except DecodeError Json
  | keep, v => .ok v
  | t, .array items => do return .array (← applyItems schema coders t items)
  | decode found, v => ScalarPaths.decodeWith [] found v
  | enter type f, .object members => do
    return .object (← applyMembers schema coders type f members)
  | enter _ _, v => .ok v

/-- The elements of an array treated. -/
def applyItems (schema : Schema) (coders : Coders) (t : Treatment) :
    List Json → Except DecodeError (List Json)
  | [] => .ok []
  | v :: r => do
    let x ← apply schema coders t v
    return x :: (← applyItems schema coders t r)

/-- The entries of an object treated, each as the forest says about its name. -/
def applyMembers (schema : Schema) (coders : Coders) (type : Option String)
    (f : List FieldTree) : List (String × Json) → Except DecodeError (List (String × Json))
  | [] => .ok []
  | (k, v) :: r => do
    let x ← (apply schema coders (FieldTree.treatment schema coders type f (Key.purify k))
      v).mapError (DecodeError.under [Key.purify k])
    return (k, x) :: (← applyMembers schema coders type f r)

end

end Treatment

/-- The data of a response decoded along the selection. -/
def SelectionSet.decodeAlong (schema : Schema) (coders : Coders) (operation : String)
    (s : SelectionSet) (data : Json) : Except DecodeError Json :=
  (Treatment.enter (some (schema.rootType operation)) s.forest).apply schema coders data

/-! ### Forests and tables -/

namespace FieldTree

variable {f : List FieldTree}

/-- Members of a coherent forest with one name are the same leaf, if one of them is a leaf. -/
theorem Coherent.eq_leaf (hc : Coherent f) {name field : String} (hmem : .leaf name field ∈ f) :
    ∀ t ∈ f, t.answer = name → t = .leaf name field := by
  obtain ⟨agree, -⟩ := hc
  intro t ht hname
  obtain ⟨hfield, hleaf⟩ := agree t ht _ hmem hname
  cases t with
  | leaf answer field' =>
    obtain rfl : answer = name := hname
    obtain rfl : field' = field := hfield
    rfl
  | node answer field' children => cases hleaf

/-- Members of a coherent forest with one name are nodes of one field, if one of them is a node. -/
theorem Coherent.eq_node (hc : Coherent f) {name field : String} {children : List FieldTree}
    (hmem : .node name field children ∈ f) :
    ∀ t ∈ f, t.answer = name → t.field = field ∧ t.isLeaf = false := by
  obtain ⟨agree, -⟩ := hc
  exact fun t ht hname => agree t ht _ hmem hname

/-- What is asked for below a node of a coherent forest is coherent. -/
theorem Coherent.merged_node (hc : Coherent f) {name field : String} {children : List FieldTree}
    (hmem : .node name field children ∈ f) : Coherent (merged name f) := by
  obtain ⟨-, below⟩ := hc
  exact below _ hmem rfl

end FieldTree

namespace Treatment

variable {schema : Schema} {coders : Coders} {paths : ScalarPaths}

/-- The table of scalars says about a position and all below it what a treatment says. -/
def Tabled (schema : Schema) (coders : Coders) (paths : ScalarPaths) (position : ResponsePath) :
    Treatment → Prop
  | keep => paths.NoDecoderFrom coders position
  | decode found => paths.decoderAt? coders position = some found
  | enter type f =>
    (∀ q, paths.get? (position ++ q) = (FieldTree.allScalars schema type f).get? q) ∧
      FieldTree.Coherent f

/-- The position of what is entered has no scalar of its own. -/
theorem Tabled.decoderAt?_enter {position : ResponsePath} {type : Option String}
    {f : List FieldTree} (h : Tabled schema coders paths position (enter type f)) :
    paths.decoderAt? coders position = none := by
  have hhere := h.1 []
  rw [List.append_nil, FieldTree.get?_allScalars_nil] at hhere
  simp [ScalarPaths.decoderAt?, hhere]

/-- **One name further** the table says what the forest says about that name. -/
theorem Tabled.child {position : ResponsePath} {type : Option String} {f : List FieldTree}
    (h : Tabled schema coders paths position (enter type f)) (k : String) :
    Tabled schema coders paths (position.child k)
      (FieldTree.treatment schema coders type f (Key.purify k)) := by
  obtain ⟨hpaths, hc⟩ := h
  have hchild : ∀ q, paths.get? (position.child k ++ q) =
      (FieldTree.allScalars schema type f).get? (Key.purify k :: q) := by
    intro q
    rw [ResponsePath.child, List.append_assoc]
    exact hpaths _
  unfold FieldTree.treatment
  cases hfind : f.find? fun t => t.answer = Key.purify k with
  | none =>
    intro q
    have hnone : ∀ t ∈ f, t.answer ≠ Key.purify k := by
      intro t ht
      simpa using List.find?_eq_none.1 hfind t ht
    rw [ScalarPaths.decoderAt?, hchild q, FieldTree.get?_allScalars_of_not_mem hnone]
    rfl
  | some t =>
    have hmem := List.mem_of_find?_eq_some hfind
    have hname : t.answer = Key.purify k := by simpa using List.find?_some hfind
    cases t with
    | leaf name field =>
      obtain rfl : name = Key.purify k := hname
      -- a leaf has at most a scalar of its own and nothing below it
      have hleaf : ∀ q, paths.decoderAt? coders (position.child k ++ q) =
          if q = [] then
            FieldTree.decoderOf? schema coders (FieldTree.typeAfter schema type field)
          else none := by
        intro q
        rw [ScalarPaths.decoderAt?, hchild q,
          FieldTree.get?_allScalars_leaf (hc.eq_leaf hmem) ⟨_, hmem, rfl⟩]
        split <;> rfl
      dsimp only
      cases hd : FieldTree.decoderOf? schema coders (FieldTree.typeAfter schema type field) with
      | none =>
        intro q
        rw [hleaf q, hd]
        split <;> rfl
      | some found =>
        have hhere := hleaf []
        rw [List.append_nil, if_pos rfl, hd] at hhere
        exact hhere
    | node name field children =>
      obtain rfl : name = Key.purify k := hname
      refine ⟨fun q => ?_, hc.merged_node hmem⟩
      rw [hchild q]
      exact FieldTree.get?_allScalars_node (hc.eq_node hmem) q

theorem decodeWith_eq (position : ResponsePath)
    (found : String × (Json → Except CoderError Json)) (v : Json) :
    ScalarPaths.decodeWith position found v =
      (ScalarPaths.decodeWith [] found v).mapError (DecodeError.under position) := by
  unfold ScalarPaths.decodeWith
  cases found.2 v with
  | ok x => rfl
  | error cause => simp [Except.mapError, DecodeError.under]

theorem apply_array (t : Treatment) (h : t ≠ keep) (items : List Json) :
    t.apply schema coders (.array items) =
      (do return .array (← applyItems schema coders t items) : Except DecodeError Json) := by
  cases t with
  | keep => exact absurd rfl h
  | decode found => rw [apply]; exact h
  | enter type f => rw [apply]; exact h

/-- A value that is neither an array nor an object is decoded or left as it is. -/
theorem decodeAt_plain {position : ResponsePath} {t : Treatment} {v : Json}
    (harray : ∀ items, v ≠ .array items) (hobject : ∀ members, v ≠ .object members)
    (h : Tabled schema coders paths position t) :
    paths.decodeAt coders position v =
      (t.apply schema coders v).mapError (DecodeError.under position) := by
  cases t with
  | keep =>
    unfold apply
    exact ScalarPaths.decodeAt_of_no_decoder h v
  | decode found =>
    have hfound : paths.decoderAt? coders position = some found := h
    cases v with
    | array items => exact absurd rfl (harray items)
    | object members => exact absurd rfl (hobject members)
    | _ =>
      simp only [ScalarPaths.decodeAt, hfound, apply]
      exact decodeWith_eq position found _
  | enter type f =>
    cases v with
    | array items => exact absurd rfl (harray items)
    | object members => exact absurd rfl (hobject members)
    | _ => simp only [ScalarPaths.decodeAt, h.decoderAt?_enter, apply, Except.mapError]

mutual

/-- **Decoding by the table** is treating a value as the table says about its position. -/
theorem decodeAt_eq_apply :
    ∀ (v : Json) {position : ResponsePath} {t : Treatment},
      Tabled schema coders paths position t →
        paths.decodeAt coders position v =
          (t.apply schema coders v).mapError (DecodeError.under position)
  | v, position, keep, h => by
    rw [apply]
    exact ScalarPaths.decodeAt_of_no_decoder h v
  | .array items, position, decode found, h => by
    rw [ScalarPaths.decodeAt, decodeItems_eq_applyItems items h, apply_array (decode found) nofun]
    cases applyItems schema coders (decode found) items <;> rfl
  | .array items, position, enter type f, h => by
    rw [ScalarPaths.decodeAt, decodeItems_eq_applyItems items h, apply_array (enter type f) nofun]
    cases applyItems schema coders (enter type f) items <;> rfl
  | .object members, position, decode found, h => by
    rw [ScalarPaths.decodeAt, h]
    exact decodeWith_eq position found _
  | .object members, position, enter type f, h => by
    rw [ScalarPaths.decodeAt, h.decoderAt?_enter]
    dsimp only
    rw [decodeMembers_eq_applyMembers members h, apply]
    cases applyMembers schema coders type f members <;> rfl
  | .null, _, _, h => decodeAt_plain nofun nofun h
  | .bool _, _, _, h => decodeAt_plain nofun nofun h
  | .number _, _, _, h => decodeAt_plain nofun nofun h
  | .string _, _, _, h => decodeAt_plain nofun nofun h

theorem decodeItems_eq_applyItems :
    ∀ (vs : List Json) {position : ResponsePath} {t : Treatment},
      Tabled schema coders paths position t →
        paths.decodeItems coders position vs =
          (t.applyItems schema coders vs).mapError (DecodeError.under position)
  | [], _, _, _ => rfl
  | v :: r, position, t, h => by
    rw [ScalarPaths.decodeItems, applyItems, decodeAt_eq_apply v h, decodeItems_eq_applyItems r h]
    cases t.apply schema coders v with
    | error e => rfl
    | ok x => cases t.applyItems schema coders r <;> rfl

theorem decodeMembers_eq_applyMembers :
    ∀ (es : List (String × Json)) {position : ResponsePath} {type : Option String}
      {f : List FieldTree},
      Tabled schema coders paths position (enter type f) →
        paths.decodeMembers coders position es =
          (applyMembers schema coders type f es).mapError (DecodeError.under position)
  | [], _, _, _, _ => rfl
  | (k, v) :: r, position, type, f, h => by
    rw [ScalarPaths.decodeMembers, applyMembers, decodeAt_eq_apply v (h.child k),
      decodeMembers_eq_applyMembers r h]
    cases (FieldTree.treatment schema coders type f (Key.purify k)).apply schema coders v with
    | error e =>
      -- the name stands before the rest of the way, whichever of the two ends puts it there
      exact congrArg Except.error (e.under_under position [Key.purify k]).symm
    | ok x => cases applyMembers schema coders type f r <;> rfl

end

end Treatment

/-- **The data of a response is decoded along the selection**: where all names are bare names and
members with one name can be merged at every level, decoding by the positions found beforehand
and decoding along the forest of the selection give the same result or the same error. -/
theorem SelectionSet.decodeResponse_eq_decodeAlong (schema : Schema) (coders : Coders)
    (operation : String) {s : SelectionSet} (hbare : FieldTree.AllBare s.forest)
    (hcoherent : FieldTree.Coherent s.forest) (data : Json) :
    s.decodeResponse schema coders operation data =
      s.decodeAlong schema coders operation data := by
  -- the table of the whole selection is the one of its forest, seen from the root
  have htabled : Treatment.Tabled schema coders
      (s.scalarPaths schema (schema.rootType operation)) []
      (.enter (some (schema.rootType operation)) s.forest) := by
    refine ⟨fun q => ?_, hcoherent⟩
    rw [s.scalarPaths_eq schema _ hbare, List.nil_append]
  rw [s.decodeResponse_eq_decode, ScalarPaths.decode, Treatment.decodeAt_eq_apply data htabled,
    decodeAlong]
  cases (Treatment.enter (some (schema.rootType operation)) s.forest).apply schema coders data with
  | ok x => rfl
  | error e => rfl

/-- A schema in which tokens have a supply, which is a custom scalar, and belong to users, whose
identifiers are one. -/
def tokenSchema : Schema :=
  ⟨.ofEntries [("query", "Query")], .empty,
    .ofEntries [
      ("Query", .fields (.ofEntries [("token", "Token"), ("user", "User")])),
      ("Token", .fields (.ofEntries [("max_supply", "numeric"), ("owner", "User")])),
      ("User", .fields (.ofEntries [("id", "uuid"), ("tokens", "Token"), ("name", "String")])),
      ("numeric", .scalar "numeric"), ("uuid", .scalar "uuid")]⟩

/-- Decoders that leave a mark; no other value is an identifier than a string. -/
def markingCoders : Coders :=
  (Coders.withDecoder .empty "numeric" fun _ => .ok (.string "numeric!")).withDecoder "uuid" fun
    | .string _ => .ok (.string "uuid!")
    | _ => .error (.invalidValue "uuid")

/-- Tokens with their owners, asked for twice, and a user under another name in a fragment. -/
def tokensAndUser : SelectionSet :=
  ⟨[(.plain "token", .call (.object []) (.object
        [(.plain "max_supply", .leaf),
         (.plain "owner", .object [(.plain "id", .leaf), (.plain "tokens", .object
            [(.aliased "s" "max_supply", .raw "")] none)] none)] none)),
    (.plain "... on Query", .object
        [(.aliased "u" "user", .object [(.plain "id", .leaf)] none)] none),
    (.plain "token", .object [(.plain "owner", .object [(.plain "name", .leaf)] none)] none)], none⟩

/-- Calls, another name, a fragment and one field asked for twice: what was asked for is decoded,
also inside of arrays, and an entry that was not asked for is left as it is. -/
theorem decodeResponse_tokensAndUser :
    FieldTree.AllBare tokensAndUser.forest ∧ FieldTree.Coherent tokensAndUser.forest ∧
      tokensAndUser.decodeResponse tokenSchema markingCoders "query" (.object
        [("token", .array [.object
            [("max_supply", .string "1"),
             ("owner", .object [("name", .string "n"), ("tokens", .array [.object
                [("s", .array [.string "2", .null])]])])]]),
         ("uuid", .string "a"),
         ("u", .object [("id", .string "a")])]) =
      .ok (.object
        [("token", .array [.object
            [("max_supply", .string "numeric!"),
             ("owner", .object [("name", .string "n"), ("tokens", .array [.object
                [("s", .array [.string "numeric!", .string "numeric!"])]])])]]),
         ("uuid", .string "a"),
         ("u", .object [("id", .string "uuid!")])]) := by
  have hbare : FieldTree.AllBare tokensAndUser.forest := by decide +kernel
  have hcoherent : FieldTree.Coherent tokensAndUser.forest := by decide +kernel
  refine ⟨hbare, hcoherent, ?_⟩
  rw [SelectionSet.decodeResponse_eq_decodeAlong tokenSchema markingCoders "query" hbare hcoherent]
  decide +kernel

example :
    tokensAndUser.decodeResponse tokenSchema markingCoders "query"
        (.object [("u", .object [("id", .array [.string "a", .null])])]) =
      .error ⟨"uuid", ["u", "id"], .invalidValue "uuid"⟩ := by
  decide +kernel

end FieldQuery
