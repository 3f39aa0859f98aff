/-
**The leaves of a selection.**

The walk that looks for scalars grows two histories on its way down, one for the response and one
for the schema, and writes what it finds into a table.  What the table holds in the end can be said
without the walk.  A selection has its leaves, in the order in which they are written; each has the
keys of the members around it, and both the position and the fields of a leaf are read off these
keys.  Two leaves may have the same position, be it that an alias repeats the name of a field or
that a fragment repeats a member, and then the last of those that are scalars is the one that
counts.  A leaf that is not a scalar does not count, so it takes nothing away from those before it.

Main definitions:

* `Selection.Leaf` — a leaf with the keys of the members around it;
* `Selection.Leaf.position`, `Selection.Leaf.fields` — where the response carries a leaf, and the
  fields that lead to its type;
* `SelectionSet.leaves` — the leaves of a selection in their order;
* `SelectionSet.bare` — a selection without arguments, raw texts and directives.

Main results:

* `Selection.scalarPaths_eq_leaves` — what a walk finds is found at the leaves;
* `ScalarPaths.get?_findings` — of several leaves at a position the last scalar counts;
* `Selection.leaves_bare` — arguments, raw texts and directives do not belong to a leaf;
* `SelectionSet.scalarPaths_of_leaves` — **the table holds the scalar leaves** and nothing else.
-/

import FieldQuery.Response.ScalarPaths
import Mathlib.Data.List.Basic
import Mathlib.Data.List.Induction

set_option autoImplicit false

namespace FieldQuery

namespace Selection

/-! ### Leaves -/

/-- A leaf of a selection: the keys of the members around it, the outermost first, and its own. -/
structure Leaf where
  enclosing : List MemberKey
  key : MemberKey

namespace Leaf

/-- A leaf seen from one member further out. -/
def under (k : MemberKey) (l : Leaf) : Leaf := { l with enclosing := k :: l.enclosing }

/-- The keys that leave a trace in the response: a fragment that stands in place does not. -/
def trail (l : Leaf) : List MemberKey :=
  (l.enclosing.filter fun k => !Key.isInlineFragment k.field) ++ [l.key]

/-- Where the response carries a leaf. -/
def position (l : Leaf) : ResponsePath := l.trail.map fun k => Key.purify k.answer

/-- The fields that lead to the type of a leaf. -/
def fields (l : Leaf) : List String := l.trail.map fun k => Key.purify k.field

/-- The scalar that a leaf has, if its fields lead to one. -/
def scalar? (schema : Schema) (root : String) (l : Leaf) : Option String :=
  (schema.resultAt root l.fields).scalarName?

theorem scalar?_eq_some_iff {schema : Schema} {root name : String} {l : Leaf} :
    l.scalar? schema root = some name ↔ schema.resultAt root l.fields = .scalar name := by
  rw [scalar?]
  cases schema.resultAt root l.fields <;> simp [Classification.scalarName?]

theorem position_ne_nil (l : Leaf) : l.position ≠ [] := by
  simp [position, trail]

theorem trail_under (k : MemberKey) (l : Leaf) :
    (l.under k).trail = if Key.isInlineFragment k.field then l.trail else k :: l.trail := by
  cases hk : Key.isInlineFragment k.field <;> simp [trail, under, hk]

end Leaf

mutual

/-- The leaves of what is fetched under a key. -/
def leaves (k : MemberKey) : Selection → List Leaf
  | .leaf => [⟨[], k⟩]
  | .raw _ => [⟨[], k⟩]
  | .call _ body => leaves k body
  | .object members _ => (memberLeaves members).map (Leaf.under k)

/-- The leaves of the members of a set. -/
def memberLeaves : List (MemberKey × Selection) → List Leaf
  | [] => []
  | (k, s) :: r => leaves k s ++ memberLeaves r

end

/-! ### What a walk finds -/

/-- What a walk with the histories `position` and `fields` finds at a leaf below. -/
def Leaf.finding (schema : Schema) (root : String) (position : ResponsePath)
    (fields : List String) (l : Leaf) : Option (ResponsePath × String) :=
  (schema.resultAt root (fields ++ l.fields)).scalarName?.map fun name =>
    (position ++ l.position, name)

section Walk

variable (schema : Schema) (root : String)

theorem Leaf.finding_under_fragment {k : MemberKey} (hk : Key.isInlineFragment k.field = true)
    (position : ResponsePath) (fields : List String) (l : Leaf) :
    (l.under k).finding schema root position fields = l.finding schema root position fields := by
  rw [finding, finding, Leaf.fields, Leaf.position, trail_under, if_pos hk]
  rfl

theorem Leaf.finding_under_field {k : MemberKey} (hk : Key.isInlineFragment k.field = false)
    (position : ResponsePath) (fields : List String) (l : Leaf) :
    (l.under k).finding schema root position fields =
      l.finding schema root (position.child k.answer) (fields ++ [Key.purify k.field]) := by
  rw [finding, finding, Leaf.fields, Leaf.position, trail_under, hk, if_neg Bool.false_ne_true,
    ResponsePath.child, List.append_assoc, List.append_assoc]
  rfl

theorem leafPath_eq_finding (k : MemberKey) (position : ResponsePath) (fields : List String) :
    leafPath schema root position fields k.answer k.field =
      [(⟨[], k⟩ : Leaf)].filterMap (Leaf.finding schema root position fields) := by
  have hleaf : Leaf.finding schema root position fields ⟨[], k⟩ =
      (schema.resultAt root (fields ++ [Key.purify k.field])).scalarName?.map fun name =>
        (position.child k.answer, name) := rfl
  rw [leafPath, List.filterMap_cons, hleaf]
  cases schema.resultAt root (fields ++ [Key.purify k.field]) <;> rfl

mutual

/-- **What a walk finds** in a member is found at its leaves. -/
theorem scalarPaths_eq_leaves : ∀ (s : Selection) (k : MemberKey) (position : ResponsePath)
    (fields : List String),
    scalarPaths schema root position fields k.answer k.field s =
      (leaves k s).filterMap (Leaf.finding schema root position fields)
  | .leaf, k, position, fields => leafPath_eq_finding schema root k position fields
  | .raw _, k, position, fields => leafPath_eq_finding schema root k position fields
  | .call _ body, k, position, fields => scalarPaths_eq_leaves body k position fields
  | .object members _, k, position, fields => by
    rw [scalarPaths, leaves, List.filterMap_map]
    cases hk : Key.isInlineFragment k.field with
    | true =>
      rw [if_pos rfl, memberScalarPaths_eq_leaves members position fields]
      exact List.filterMap_congr fun l _ =>
        (Leaf.finding_under_fragment schema root hk position fields l).symm
    | false =>
      rw [if_neg Bool.false_ne_true, memberScalarPaths_eq_leaves members]
      exact List.filterMap_congr fun l _ =>
        (Leaf.finding_under_field schema root hk position fields l).symm

theorem memberScalarPaths_eq_leaves : ∀ (ms : List (MemberKey × Selection))
    (position : ResponsePath) (fields : List String),
    memberScalarPaths schema root position fields ms =
      (memberLeaves ms).filterMap (Leaf.finding schema root position fields)
  | [], _, _ => rfl
  | (k, s) :: r, position, fields => by
    rw [memberScalarPaths, memberLeaves, List.filterMap_append,
      scalarPaths_eq_leaves s k position fields, memberScalarPaths_eq_leaves r position fields]

end

end Walk

/-! ### What does not belong to a leaf -/

mutual

/-- A selection without arguments, raw texts and directives. -/
def bare : Selection → Selection
  | .leaf => .leaf
  | .raw _ => .leaf
  | .call _ body => bare body
  | .object members _ => .object (bareMembers members) none

/-- The members of a set without them. -/
def bareMembers : List (MemberKey × Selection) → List (MemberKey × Selection)
  | [] => []
  | (k, s) :: r => (k, bare s) :: bareMembers r

end

mutual

/-- Arguments, raw texts and directives do not belong to a leaf. -/
theorem leaves_bare : ∀ (s : Selection) (k : MemberKey), leaves k s.bare = leaves k s
  | .leaf, _ => rfl
  | .raw _, _ => rfl
  | .call _ body, k => leaves_bare body k
  | .object members _, k => by rw [bare, leaves, leaves, memberLeaves_bareMembers members]

theorem memberLeaves_bareMembers : ∀ ms : List (MemberKey × Selection),
    memberLeaves (bareMembers ms) = memberLeaves ms
  | [] => rfl
  | (k, s) :: r => by
    rw [bareMembers, memberLeaves, memberLeaves, leaves_bare s k, memberLeaves_bareMembers r]

end

end Selection

/-! ### Of several leaves the last -/

/-- What is found at the leaves of a list, seen from the root. -/
def ScalarPaths.findings (schema : Schema) (root : String) (ls : List Selection.Leaf) :
    ScalarPaths :=
  ls.filterMap fun l => (l.scalar? schema root).map fun name => (l.position, name)

/-- The leaves of a list that the response carries at a position and that are scalars. -/
def Selection.scalarsAt (schema : Schema) (root : String) (p : ResponsePath)
    (ls : List Selection.Leaf) : List Selection.Leaf :=
  ls.filter fun l => l.position = p ∧ (l.scalar? schema root).isSome

/-- **Of several leaves** at a position the last one that is a scalar counts. -/
theorem ScalarPaths.get?_findings (schema : Schema) (root : String) (ls : List Selection.Leaf)
    (p : ResponsePath) :
    (findings schema root ls).get? p =
      (Selection.scalarsAt schema root p ls).getLast?.bind (·.scalar? schema root) := by
  induction ls using List.reverseRecOn with
  | nil => rfl
  | append_singleton ls l ih =>
    unfold findings Selection.scalarsAt at ih ⊢
    rw [List.filterMap_append, List.filter_append, List.filterMap_cons, List.filter_cons]
    cases hl : l.scalar? schema root with
    | none => simpa [hl] using ih
    | some name =>
      by_cases hp : l.position = p
      · simp [hl, hp, get?_append_singleton]
      · simpa [hl, hp, get?_append_singleton] using ih

theorem Selection.mem_scalarsAt {schema : Schema} {root : String} {p : ResponsePath}
    {ls : List Selection.Leaf} {l : Selection.Leaf} :
    l ∈ scalarsAt schema root p ls ↔
      l ∈ ls ∧ l.position = p ∧ ∃ name, schema.resultAt root l.fields = .scalar name := by
  simp [scalarsAt, Option.isSome_iff_exists, Leaf.scalar?_eq_some_iff]

/-- Nothing is found at a position exactly if no leaf there is a scalar. -/
theorem ScalarPaths.get?_findings_eq_none_iff (schema : Schema) (root : String)
    (ls : List Selection.Leaf) (p : ResponsePath) :
    (findings schema root ls).get? p = none ↔
      ∀ l ∈ ls, l.position = p → ∀ name, schema.resultAt root l.fields ≠ .scalar name := by
  rw [get?_findings]
  constructor
  · intro h l hl hp name hname
    have hmem : l ∈ Selection.scalarsAt schema root p ls :=
      Selection.mem_scalarsAt.mpr ⟨hl, hp, name, hname⟩
    obtain ⟨last, hlast⟩ := Option.isSome_iff_exists.mp
      (List.getLast?_isSome.mpr (List.ne_nil_of_mem hmem))
    obtain ⟨-, -, other, hother⟩ := Selection.mem_scalarsAt.mp (List.mem_of_getLast? hlast)
    rw [hlast, Option.bind_some, Selection.Leaf.scalar?_eq_some_iff.mpr hother] at h
    cases h
  · intro h
    have hnil : Selection.scalarsAt schema root p ls = [] := by
      refine List.eq_nil_iff_forall_not_mem.mpr fun l hl => ?_
      obtain ⟨hmem, hp, name, hname⟩ := Selection.mem_scalarsAt.mp hl
      exact h l hmem hp name hname
    rw [hnil]
    rfl

namespace SelectionSet

/-- The leaves of a selection, in the order in which they are written. -/
def leaves (s : SelectionSet) : List Selection.Leaf := Selection.memberLeaves s.members

/-- A selection without arguments, raw texts and directives. -/
def bare (s : SelectionSet) : SelectionSet := ⟨Selection.bareMembers s.members, none⟩

theorem leaves_bare (s : SelectionSet) : s.bare.leaves = s.leaves :=
  Selection.memberLeaves_bareMembers s.members

theorem scalarPaths_eq_findings (schema : Schema) (root : String) (s : SelectionSet) :
    s.scalarPaths schema root = ScalarPaths.findings schema root s.leaves :=
  Selection.memberScalarPaths_eq_leaves schema root s.members [] []

/-- **The table holds the scalar leaves** and nothing else.  A position has the scalar of the last
of the scalar leaves that the response carries there, and none if there is no such leaf.  So the
root has none, and selections that differ only in their arguments, raw texts and directives have
the same table. -/
theorem scalarPaths_of_leaves (schema : Schema) (root : String) (s : SelectionSet) :
    (∀ p name, (s.scalarPaths schema root).get? p = some name ↔
      ∃ l, (Selection.scalarsAt schema root p s.leaves).getLast? = some l ∧
        schema.resultAt root l.fields = .scalar name) ∧
    (∀ p, (s.scalarPaths schema root).get? p = none ↔
      ∀ l ∈ s.leaves, l.position = p → ∀ name, schema.resultAt root l.fields ≠ .scalar name) ∧
    (s.scalarPaths schema root).get? [] = none ∧
    ∀ s' : SelectionSet, s'.bare = s.bare →
      s'.scalarPaths schema root = s.scalarPaths schema root := by
  rw [s.scalarPaths_eq_findings]
  have hnone := ScalarPaths.get?_findings_eq_none_iff schema root s.leaves
  refine ⟨fun p name => ?_, hnone, (hnone []).mpr fun l _ hroot => ?_, fun s' hs' => ?_⟩
  · rw [ScalarPaths.get?_findings, Option.bind_eq_some_iff]
    simp only [Selection.Leaf.scalar?_eq_some_iff]
  · exact absurd hroot l.position_ne_nil
  · rw [s'.scalarPaths_eq_findings, ← s'.leaves_bare, hs', s.leaves_bare]

end SelectionSet

end FieldQuery
