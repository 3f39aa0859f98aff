/-
**What a document says of a selection.**

Reading a selection stops at the first thing that is wrong, so what it gives mixes two questions:
what the document says, and whether it may say so.  Here they are taken apart.  Every document has
its faults, all of them and in the order in which they stand, however many a reader would get to
see; and every document has a shape, which is what it describes if it describes anything.  Reading
gives the shape of a document without faults, and of any other the first fault.  What was read can
be relied on: the arguments of a call are an object, and a call is of no other call.

Main definitions:

* `Selection.IsSelection`, `Selection.IsEntry`, `Selection.IsAliased` — the grammar of selections;
* `Selection.faults`, `SelectionSet.faults` — all that is wrong with a document, in its order;
* `Selection.isExcluded`, `Selection.entries` — what leaves a field out, and the fields that the
  members of an object speak of;
* `Selection.shape`, `Selection.directivesOf` — what a document describes;
* `Selection.CallsAreSound` — calls are of something else, with an object of arguments.

Main results:

* `Selection.ofJson_eq` — reading gives the shape or the first fault;
* `Selection.faults_eq_nil_iff` — the grammar has the documents without faults;
* `Selection.shapes_eq` — a set has a member for every field that is not left out;
* `SelectionSet.ofJson_describes` — **a document is read exactly if it is of the grammar**, and
  what is read is what it says.
-/

import FieldQuery.Selection.Reader

set_option autoImplicit false

namespace FieldQuery

namespace Selection

/-! ### The grammar -/

mutual

/-- What may be said of a field: that it is wanted or not, a text, a set, or arguments with one of
these. -/
inductive IsSelection : Json → Prop
  | null : IsSelection .null
  | bool (b : Bool) : IsSelection (.bool b)
  | number (n : Number) : IsSelection (.number n)
  | string (text : String) : IsSelection (.string text)
  | object {members : List (String × Json)} :
      (∀ e ∈ members, IsEntry e.1 e.2) → IsSelection (.object members)
  | pair {arguments body : Json} :
      arguments.isObject = true → body.isArray = false → IsSelection body →
        IsSelection (.array [arguments, body])

/-- What may stand under a key in a set. -/
inductive IsEntry : String → Json → Prop
  | directives (text : String) : IsEntry directivesKey (.string text)
  | aliases {block : List (String × Json)} :
      (∀ e ∈ block, IsAliased e.2) → IsEntry aliasKey (.object block)
  | field {key : String} {v : Json} :
      key ≠ directivesKey → key ≠ aliasKey → IsSelection v → IsEntry key v

/-- What may stand under another name in a block of aliases: one field. -/
inductive IsAliased : Json → Prop
  | field {key : String} {v : Json} : IsSelection v → IsAliased (.object [(key, v)])

end

/-! ### Faults -/

mutual

/-- All that is wrong with what is said of the field `key`, in the order of the document. -/
def faults (key : String) : Json → List SelectionError
  | .object members => memberFaults members
  | .array [arguments, body] =>
    (if arguments.isObject then [] else [.argumentsNotObject key]) ++
      (if body.isArray then [.nestedPair key] else faults key body)
  | .array items => [.badPairLength key items.length]
  | _ => []

/-- All that is wrong with the members of a set. -/
def memberFaults : List (String × Json) → List SelectionError
  | [] => []
  | (key, v) :: rest =>
    (if key = directivesKey then if v.asString?.isSome then [] else [.badDirectives]
    else if key = aliasKey then blockFaults v
    else faults key v) ++ memberFaults rest

/-- All that is wrong with what should be a block of aliases. -/
def blockFaults : Json → List SelectionError
  | .object block => aliasFaults block
  | _ => [.invalidAliasBlock]

/-- All that is wrong with the fields in a block of aliases. -/
def aliasFaults : List (String × Json) → List SelectionError
  | [] => []
  | (_, .object [(field, v)]) :: rest => faults field v ++ aliasFaults rest
  | (name, _) :: rest => .invalidAlias name :: aliasFaults rest

end

/-! ### Shapes -/

/-- The field is left out. -/
def isExcluded : Json → Bool
  | .null => true
  | .bool b => !b
  | .number n => n.isZero
  | .array [_, body] => isExcluded body
  | _ => false

/-- The one field that an aliased document speaks of, and what it says of it. -/
def aliased? : Json → Option (String × Json)
  | .object [e] => some e
  | _ => none

/-- The fields that a block of aliases speaks of, under their other names. -/
def aliasedEntries (block : List (String × Json)) : List (MemberKey × Json) :=
  block.filterMap fun e => (aliased? e.2).map fun f => (.aliased e.1 f.1, f.2)

/-- The fields that a member of an object speaks of: several under the key of aliases, none under
that of directives. -/
def entriesOf (key : String) (v : Json) : List (MemberKey × Json) :=
  if key = directivesKey then []
  else if key = aliasKey then aliasedEntries (v.asObject?.getD [])
  else [(.plain key, v)]

/-- The fields that the members of an object speak of, in their order. -/
def entries (members : List (String × Json)) : List (MemberKey × Json) :=
  members.flatMap fun e => entriesOf e.1 e.2

/-- The directives among the members of an object; a document that was read has them once. -/
def directivesOf (members : List (String × Json)) : Option String :=
  (members.filterMap fun e => if e.1 = directivesKey then e.2.asString? else none).getLast?

mutual

/-- What a document describes that leaves no field out. -/
def shape : Json → Selection
  | .string text => .raw text
  | .object members => .object (shapes members) (directivesOf members)
  | .array [arguments, body] => .call arguments (shape body)
  | _ => .leaf

/-- The members that the members of an object describe. -/
def shapes : List (String × Json) → List (MemberKey × Selection)
  | [] => []
  | (key, v) :: rest =>
    (if key = directivesKey then []
    else if key = aliasKey then blockShapes v
    else if isExcluded v then [] else [(.plain key, shape v)]) ++ shapes rest

/-- The members that a block of aliases describes. -/
def blockShapes : Json → List (MemberKey × Selection)
  | .object block => aliasedShapes block
  | _ => []

/-- The members that the fields in a block of aliases describe. -/
def aliasedShapes : List (String × Json) → List (MemberKey × Selection)
  | [] => []
  | (name, .object [(field, v)]) :: rest =>
    (if isExcluded v then [] else [(.aliased name field, shape v)]) ++ aliasedShapes rest
  | _ :: rest => aliasedShapes rest

end

/-- The members that fields describe under their keys, but for those that are left out. -/
def kept (es : List (MemberKey × Json)) : List (MemberKey × Selection) :=
  (es.filter fun e => !isExcluded e.2).map fun e => (e.1, shape e.2)

theorem kept_append (es fs : List (MemberKey × Json)) : kept (es ++ fs) = kept es ++ kept fs := by
  rw [kept, List.filter_append, List.map_append]
  rfl

theorem kept_singleton (key : MemberKey) (v : Json) :
    kept [(key, v)] = if isExcluded v then [] else [(key, shape v)] := by
  cases h : isExcluded v <;> simp [kept, h]

theorem eq_object_of_aliased? {v : Json} {e : String × Json} (h : aliased? v = some e) :
    v = .object [e] := by
  unfold aliased? at h
  split at h <;> cases h
  rfl

theorem aliasedShapes_eq (block : List (String × Json)) :
    aliasedShapes block = kept (aliasedEntries block) := by
  induction block with
  | nil => rfl
  | cons e rest ih =>
    obtain ⟨name, v⟩ := e
    rw [aliasedEntries, List.filterMap_cons]
    cases h : aliased? v with
    | none =>
      rw [aliasedShapes, ih]
      · rfl
      · rintro _ field w ⟨⟩
        cases h
    | some e =>
      obtain rfl := eq_object_of_aliased? h
      rw [aliasedShapes, ih, ← kept_singleton, ← kept_append]
      rfl

/-- **A set has a member for every field that is not left out**, in the order of the document. -/
theorem shapes_eq (members : List (String × Json)) : shapes members = kept (entries members) := by
  induction members with
  | nil => rfl
  | cons e rest ih =>
    obtain ⟨key, v⟩ := e
    have hentries : entries ((key, v) :: rest) = entriesOf key v ++ entries rest := rfl
    rw [shapes, ih, hentries, kept_append]
    congr 1
    unfold entriesOf
    split
    · rfl
    split
    · cases v with
      | object block => exact aliasedShapes_eq block
      | _ => rfl
    · exact (kept_singleton (.plain key) v).symm

/-! ### Reading -/

/-- A result that is given unless there are faults; then the first of them is. -/
def orFirst {α : Type} : List SelectionError → α → Except SelectionError α
  | [], x => .ok x
  | e :: _, _ => .error e

/-- One part is looked at after another. -/
theorem orFirst_bind {α β γ : Type} (es fs : List SelectionError) (x : α) (y : β) (f : α → β → γ) :
    (orFirst es x >>= fun a => orFirst fs y >>= fun b => pure (f a b)) =
      orFirst (es ++ fs) (f x y) := by
  cases es <;> cases fs <;> rfl

theorem orFirst_map {α β : Type} (es : List SelectionError) (x : α) (f : α → β) :
    (orFirst es x >>= fun a => pure (f a)) = orFirst es (f x) := by
  cases es <;> rfl

/-- The last directives count. -/
theorem directivesOf_cons (key : String) (v : Json) (rest : List (String × Json)) :
    directivesOf ((key, v) :: rest) =
      (directivesOf rest).or (if key = directivesKey then v.asString? else none) := by
  unfold directivesOf
  rw [List.filterMap_cons]
  split
  · rename_i h
    rw [h, Option.or_none]
  · rename_i text h
    rw [h, List.getLast?_cons]
    cases (rest.filterMap fun e => if e.1 = directivesKey then e.2.asString? else none).getLast? <;>
      rfl

/-- What stands under an ordinary key is read before the rest. -/
theorem ofMembers_field {key : String} (hdirectives : key ≠ directivesKey)
    (haliases : key ≠ aliasKey) (v : Json) (rest : List (String × Json)) :
    ofMembers ((key, v) :: rest) = (do
      let selection ← ofJson key v
      let (ms, directives) ← ofMembers rest
      return ((selection.map fun s => (MemberKey.plain key, s)).toList ++ ms, directives)) := by
  rw [ofMembers.eq_def]
  dsimp only
  rw [if_neg hdirectives, if_neg haliases]

mutual

/-- **Reading what is said of a field** gives its shape or its first fault. -/
theorem ofJson_eq (key : String) : ∀ v : Json,
    ofJson key v = orFirst (faults key v) (if isExcluded v then none else some (shape v))
  | .null => rfl
  | .bool b => by cases b <;> rfl
  | .number n => rfl
  | .string text => rfl
  | .object members => by
    rw [ofJson, ofMembers_eq members]
    exact orFirst_map _ _ _
  | .array [] => rfl
  | .array [_] => rfl
  | .array (_ :: _ :: _ :: _) => rfl
  | .array [arguments, body] => by
    rw [ofJson, faults, isExcluded, shape, ofJson_eq key body]
    cases arguments.isObject with
    | false => rfl
    | true =>
      cases body.isArray with
      | true => rfl
      | false =>
        refine (orFirst_map _ _ _).trans ?_
        cases isExcluded body <;> rfl

theorem ofMembers_eq : ∀ members : List (String × Json),
    ofMembers members = orFirst (memberFaults members) (shapes members, directivesOf members)
  | [] => rfl
  | (key, v) :: rest => by
    rw [memberFaults, shapes, directivesOf_cons]
    by_cases hdirectives : key = directivesKey
    · subst hdirectives
      cases v with
      | string text =>
        rw [ofMembers, if_pos rfl, ofMembers_eq rest]
        exact orFirst_map _ _ _
      | _ => rfl
    rw [if_neg hdirectives, if_neg hdirectives, if_neg hdirectives, Option.or_none]
    by_cases haliases : key = aliasKey
    · subst haliases
      cases v with
      | object block =>
        rw [ofMembers, if_neg hdirectives, if_pos rfl, ofAliases_eq block, ofMembers_eq rest]
        exact orFirst_bind _ _ _ _ _
      | _ => rfl
    · rw [ofMembers_field hdirectives haliases, if_neg haliases, if_neg haliases, ofJson_eq key v,
        ofMembers_eq rest]
      refine (orFirst_bind _ _ _ _ _).trans ?_
      cases isExcluded v <;> rfl

theorem ofAliases_eq : ∀ block : List (String × Json),
    ofAliases block = orFirst (aliasFaults block) (aliasedShapes block)
  | [] => rfl
  | (name, .object [(field, v)]) :: rest => by
    rw [ofAliases, aliasFaults, aliasedShapes, ofAliases_eq rest, ofJson_eq field v]
    refine (orFirst_bind _ _ _ _ _).trans ?_
    cases isExcluded v <;> rfl
  | (_, .object []) :: _ | (_, .object (_ :: _ :: _)) :: _ | (_, .null) :: _ | (_, .bool _) :: _
  | (_, .number _) :: _ | (_, .string _) :: _ | (_, .array _) :: _ => rfl

end

/-! ### Documents without faults -/

theorem isEntry_directives_iff {v : Json} : IsEntry directivesKey v ↔ ∃ text, v = .string text := by
  refine ⟨fun h => ?_, fun ⟨text, h⟩ => h ▸ .directives text⟩
  generalize hkey : directivesKey = key at h
  cases h with
  | directives text => exact ⟨text, rfl⟩
  | aliases _ => exact absurd hkey (by decide)
  | field h _ _ => exact absurd hkey.symm h

theorem isEntry_aliases_iff {v : Json} :
    IsEntry aliasKey v ↔ ∃ block, v = .object block ∧ ∀ e ∈ block, IsAliased e.2 := by
  refine ⟨fun h => ?_, fun ⟨block, h, h'⟩ => h ▸ .aliases h'⟩
  generalize hkey : aliasKey = key at h
  cases h with
  | directives _ => exact absurd hkey (by decide)
  | aliases h => exact ⟨_, rfl, h⟩
  | field _ h _ => exact absurd hkey.symm h

theorem isEntry_field_iff {key : String} {v : Json} (hdirectives : key ≠ directivesKey)
    (haliases : key ≠ aliasKey) : IsEntry key v ↔ IsSelection v := by
  refine ⟨fun h => ?_, .field hdirectives haliases⟩
  cases h with
  | directives _ => exact absurd rfl hdirectives
  | aliases _ => exact absurd rfl haliases
  | field _ _ h => exact h

mutual

/-- **The grammar has the documents without faults.** -/
theorem faults_eq_nil_iff (key : String) : ∀ v : Json, faults key v = [] ↔ IsSelection v
  | .null => ⟨fun _ => .null, fun _ => rfl⟩
  | .bool b => ⟨fun _ => .bool b, fun _ => rfl⟩
  | .number n => ⟨fun _ => .number n, fun _ => rfl⟩
  | .string text => ⟨fun _ => .string text, fun _ => rfl⟩
  | .object members => by
    rw [faults, memberFaults_eq_nil_iff members]
    exact ⟨.object, fun | .object h => h⟩
  | .array [] | .array [_] | .array (_ :: _ :: _ :: _) => ⟨nofun, nofun⟩
  | .array [arguments, body] => by
    have hbody := faults_eq_nil_iff key body
    rw [faults, List.append_eq_nil_iff]
    constructor
    · rintro ⟨h, h'⟩
      split at h
      · rename_i harguments
        split at h'
        · cases h'
        · rename_i harray
          exact .pair harguments (by simpa using harray) (hbody.mp h')
      · cases h
    · rintro (_ | _ | _ | _ | _ | ⟨harguments, harray, h⟩)
      rw [if_pos harguments, harray]
      exact ⟨rfl, hbody.mpr h⟩

theorem memberFaults_eq_nil_iff : ∀ members : List (String × Json),
    memberFaults members = [] ↔ ∀ e ∈ members, IsEntry e.1 e.2
  | [] => ⟨fun _ => nofun, fun _ => rfl⟩
  | (key, v) :: rest => by
    rw [memberFaults, List.append_eq_nil_iff, memberFaults_eq_nil_iff rest, List.forall_mem_cons]
    refine and_congr_left fun _ => ?_
    by_cases hdirectives : key = directivesKey
    · rw [if_pos hdirectives, hdirectives, isEntry_directives_iff]
      cases v <;> simp [Json.asString?]
    rw [if_neg hdirectives]
    by_cases haliases : key = aliasKey
    · rw [if_pos haliases, haliases, isEntry_aliases_iff]
      cases v with
      | object block => simp [blockFaults, aliasFaults_eq_nil_iff block]
      | _ => simp [blockFaults]
    · rw [if_neg haliases, isEntry_field_iff hdirectives haliases, faults_eq_nil_iff key v]

theorem aliasFaults_eq_nil_iff : ∀ block : List (String × Json),
    aliasFaults block = [] ↔ ∀ e ∈ block, IsAliased e.2
  | [] => ⟨fun _ => nofun, fun _ => rfl⟩
  | (name, .object [(field, v)]) :: rest => by
    rw [aliasFaults, List.append_eq_nil_iff, aliasFaults_eq_nil_iff rest, List.forall_mem_cons,
      faults_eq_nil_iff field v]
    exact and_congr_left fun _ => ⟨.field, fun | .field h => h⟩
  | (_, .object []) :: _ | (_, .object (_ :: _ :: _)) :: _ | (_, .null) :: _ | (_, .bool _) :: _
  | (_, .number _) :: _ | (_, .string _) :: _ | (_, .array _) :: _ =>
    ⟨nofun, fun h => nomatch h _ List.mem_cons_self⟩

end

/-! ### Calls -/

/-- The arguments of every call are an object, and no call is of another call. -/
inductive CallsAreSound : Selection → Prop
  | leaf : CallsAreSound .leaf
  | raw (text : String) : CallsAreSound (.raw text)
  | object {members : List (MemberKey × Selection)} {directives : Option String} :
      (∀ m ∈ members, CallsAreSound m.2) → CallsAreSound (.object members directives)
  | call {arguments : Json} {body : Selection} :
      arguments.isObject = true → (∀ arguments' body', body ≠ .call arguments' body') →
        CallsAreSound body → CallsAreSound (.call arguments body)

/-- Only an array describes a call. -/
theorem shape_ne_call {v : Json} (h : v.isArray = false) (arguments : Json) (body : Selection) :
    shape v ≠ .call arguments body := by
  cases v with
  | array items => cases h
  | _ => nofun

mutual

/-- **What was read has sound calls.** -/
theorem callsAreSound_shape : ∀ v : Json, IsSelection v → CallsAreSound (shape v)
  | .null, _ | .bool _, _ | .number _, _ => .leaf
  | .string text, _ => .raw text
  | .object members, .object h => .object (callsAreSound_shapes members h)
  | .array [_, body], .pair harguments harray h =>
    .call harguments (shape_ne_call harray) (callsAreSound_shape body h)

theorem callsAreSound_shapes : ∀ members : List (String × Json),
    (∀ e ∈ members, IsEntry e.1 e.2) → ∀ m ∈ shapes members, CallsAreSound m.2
  | [], _ => nofun
  | (key, v) :: rest, h => by
    obtain ⟨hentry, hrest⟩ := List.forall_mem_cons.mp h
    rw [shapes]
    refine List.forall_mem_append.mpr ⟨?_, callsAreSound_shapes rest hrest⟩
    by_cases hdirectives : key = directivesKey
    · rw [if_pos hdirectives]
      nofun
    rw [if_neg hdirectives]
    by_cases haliases : key = aliasKey
    · rw [if_pos haliases]
      rw [haliases, isEntry_aliases_iff] at hentry
      obtain ⟨block, rfl, hblock⟩ := hentry
      exact callsAreSound_aliasedShapes block hblock
    · rw [if_neg haliases]
      rw [isEntry_field_iff hdirectives haliases] at hentry
      split
      · nofun
      · exact List.forall_mem_singleton.mpr (callsAreSound_shape v hentry)

theorem callsAreSound_aliasedShapes : ∀ block : List (String × Json),
    (∀ e ∈ block, IsAliased e.2) → ∀ m ∈ aliasedShapes block, CallsAreSound m.2
  | [], _ => nofun
  | (name, .object [(field, v)]) :: rest, h => by
    obtain ⟨⟨hfield⟩, hrest⟩ := List.forall_mem_cons.mp h
    rw [aliasedShapes]
    refine List.forall_mem_append.mpr ⟨?_, callsAreSound_aliasedShapes rest hrest⟩
    split
    · nofun
    · exact List.forall_mem_singleton.mpr (callsAreSound_shape v hfield)
  | (_, .object []) :: _, h | (_, .object (_ :: _ :: _)) :: _, h | (_, .null) :: _, h
  | (_, .bool _) :: _, h | (_, .number _) :: _, h | (_, .string _) :: _, h
  | (_, .array _) :: _, h => nomatch h _ List.mem_cons_self

end

/-- **An object describes a set** of the members that its fields describe. -/
theorem shape_object (members : List (String × Json)) :
    shape (.object members) = .object (kept (entries members)) (directivesOf members) := by
  rw [shape, shapes_eq]

end Selection

namespace SelectionSet

open Selection

/-- All that is wrong with a document that should describe a set, in its order. -/
def faults : Json → List SelectionError
  | .object members => memberFaults members
  | _ => [.rootNotObject]

theorem ofJson_object (members : List (String × Json)) :
    ofJson (.object members) =
      orFirst (memberFaults members) ⟨kept (entries members), directivesOf members⟩ := by
  rw [ofJson, ofMembers_eq, shapes_eq]
  exact orFirst_map _ _ _

/-- **A document is read exactly if it is of the grammar.**  Then the set has one member for every
field that is not left out, in the order of the document and with what the document says of it; its
directives are those of the document; and its calls are sound, at every depth.  A document that is
not read is refused with the first of its faults. -/
theorem ofJson_describes (v : Json) :
    ((∃ s, ofJson v = .ok s) ↔
      ∃ members, v = .object members ∧ ∀ e ∈ members, IsEntry e.1 e.2) ∧
    (∀ s, ofJson v = .ok s → ∃ members, v = .object members ∧
      s.members = kept (entries members) ∧ s.directives = directivesOf members ∧
      CallsAreSound s.toSelection) ∧
    ∀ e, ofJson v = .error e ↔ (faults v).head? = some e := by
  cases v with
  | object members =>
    have hgrammar := memberFaults_eq_nil_iff members
    rw [ofJson_object, faults]
    cases hfaults : memberFaults members with
    | nil =>
      have hentries := hgrammar.mp hfaults
      refine ⟨⟨fun _ => ⟨members, rfl, hentries⟩, fun _ => ⟨_, rfl⟩⟩, ?_, fun e => ⟨nofun, nofun⟩⟩
      rintro _ ⟨⟩
      refine ⟨members, rfl, rfl, rfl, ?_⟩
      have hshape := callsAreSound_shape (.object members) (.object hentries)
      rwa [shape_object] at hshape
    | cons fault rest =>
      refine ⟨⟨nofun, ?_⟩, nofun, fun e => ⟨fun | rfl => rfl, fun | rfl => rfl⟩⟩
      rintro ⟨_, ⟨⟩, hentries⟩
      rw [hgrammar.mpr hentries] at hfaults
      cases hfaults
  -- nothing else has a key under which something could be wrong
  | _ => exact ⟨⟨nofun, nofun⟩, nofun, fun e => ⟨fun | rfl => rfl, fun | rfl => rfl⟩⟩

/-- A pair can have two faults, and what stands after it is looked at all the same. -/
example : faults (.object [("a", .array [.null, .array []]), ("__alias", .null)]) =
    [.argumentsNotObject "a", .nestedPair "a", .invalidAliasBlock] := by decide

end SelectionSet

end FieldQuery
