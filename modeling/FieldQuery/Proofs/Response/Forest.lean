/-
**The fields of a selection as a forest.**

What a selection asks for is a forest: calls are looked through, a fragment that stands in place
gives its members to the set around it, and every other member is a leaf or a node under the name
that the server answers with.  The scalars of a forest are found by following the types of the
fields downwards, and the walk through the selection finds the same ones.

Main definitions:

* `FieldTree` — a leaf or a node, with the name that is answered and the field that is meant;
* `SelectionSet.forest` — the forest of a selection;
* `FieldTree.Bare` — all names are bare names already;
* `FieldTree.merged` — what is asked for below one name;
* `FieldTree.Coherent` — members with one name can be merged, at every level;
* `FieldTree.allScalars` — the scalars of a forest, with their positions.

Main results:

* `SelectionSet.scalarPaths_eq` — the positions found in a selection are those of its forest;
* `FieldTree.get?_allScalars_node` — below the name of nodes are the scalars of what is merged.
-/

import FieldQuery.Proofs.Schema.Walk
import FieldQuery.Response.ScalarPaths

set_option autoImplicit false

namespace FieldQuery

/-! ### Forests -/

/-- A member of a set as the server understands it: `answer` is the name that it answers with,
`field` the field that is meant. -/
inductive FieldTree where
  | leaf (answer field : String)
  | node (answer field : String) (children : List FieldTree)

namespace FieldTree

/-- The name that the server answers with. -/
def answer : FieldTree → String
  | leaf answer _ => answer
  | node answer _ _ => answer

/-- The field that is meant. -/
def field : FieldTree → String
  | leaf _ field => field
  | node _ field _ => field

/-- What is asked for below. -/
def children : FieldTree → List FieldTree
  | leaf _ _ => []
  | node _ _ children => children

/-- Nothing can be asked for below. -/
def isLeaf : FieldTree → Bool
  | leaf _ _ => true
  | node _ _ _ => false

mutual

/-- All names in the tree are bare names already. -/
def Bare : FieldTree → Prop
  | leaf answer field => Key.purify answer = answer ∧ Key.purify field = field
  | node answer field children =>
    (Key.purify answer = answer ∧ Key.purify field = field) ∧ AllBare children

/-- All names in the forest are bare names already. -/
def AllBare : List FieldTree → Prop
  | [] => True
  | t :: r => t.Bare ∧ AllBare r

end

/-- What is asked for below one name. -/
def merged (name : String) (f : List FieldTree) : List FieldTree :=
  f.flatMap fun t => if t.answer = name then t.children else []

/-- Members with one name mean one field and are all leaves or all nodes, and what is asked for
below one name agrees in the same way. -/
inductive Coherent : List FieldTree → Prop where
  | intro {f : List FieldTree}
      (agree : ∀ x ∈ f, ∀ y ∈ f, x.answer = y.answer → x.field = y.field ∧ x.isLeaf = y.isLeaf)
      (below : ∀ x ∈ f, x.isLeaf = false → Coherent (merged x.answer f)) : Coherent f

/-! ### Deciding whether a forest is bare and coherent -/

mutual

/-- Whether all names in a tree are bare names. -/
def decideBare : (t : FieldTree) → Decidable t.Bare
  | leaf answer field =>
    inferInstanceAs (Decidable (Key.purify answer = answer ∧ Key.purify field = field))
  | node _ _ children =>
    have := decideAllBare children
    inferInstanceAs (Decidable (_ ∧ _))

/-- Whether all names in a forest are bare names. -/
def decideAllBare : (f : List FieldTree) → Decidable (AllBare f)
  | [] => .isTrue trivial
  | t :: r =>
    have := decideBare t
    have := decideAllBare r
    inferInstanceAs (Decidable (_ ∧ _))

end

instance (f : List FieldTree) : Decidable (AllBare f) := decideAllBare f

mutual

/-- The number of levels of nodes in a tree. -/
def height : FieldTree → Nat
  | leaf _ _ => 0
  | node _ _ children => heights children + 1

/-- The number of levels of nodes in a forest. -/
def heights : List FieldTree → Nat
  | [] => 0
  | t :: r => max t.height (heights r)

end

theorem heights_le_iff {f : List FieldTree} {n : Nat} :
    heights f ≤ n ↔ ∀ t ∈ f, t.height ≤ n := by
  induction f with
  | nil => simp [heights]
  | cons t r ih => rw [heights, Nat.max_le, ih, List.forall_mem_cons]

theorem heights_children_lt {t : FieldTree} {f : List FieldTree} (h : t ∈ f)
    (hnode : t.isLeaf = false) : heights t.children < heights f := by
  have hle := heights_le_iff.1 (Nat.le_refl (heights f)) t h
  cases t with
  | leaf answer field => cases hnode
  | node answer field children =>
    rw [height] at hle
    exact hle

/-- Below a node there are fewer levels. -/
theorem heights_merged_lt {t : FieldTree} {f : List FieldTree} (h : t ∈ f)
    (hnode : t.isLeaf = false) : heights (merged t.answer f) < heights f := by
  have hpos := heights_children_lt h hnode
  have hle : heights (merged t.answer f) ≤ heights f - 1 := by
    rw [heights_le_iff]
    intro x hx
    obtain ⟨y, hy, hxy⟩ := List.mem_flatMap.1 hx
    split at hxy
    · cases hleaf : y.isLeaf with
      | false =>
        have hlt := heights_children_lt hy hleaf
        have hxle := heights_le_iff.1 (Nat.le_refl (heights y.children)) x hxy
        omega
      | true =>
        cases y with
        | leaf answer field => cases hxy
        | node answer field children => cases hleaf
    · cases hxy
  omega

/-- Whether a forest is coherent, looking at so many levels. -/
def coherentTo : Nat → List FieldTree → Bool
  | 0, _ => false
  | n + 1, f =>
    (f.all fun x => f.all fun y =>
      decide (x.answer = y.answer → x.field = y.field ∧ x.isLeaf = y.isLeaf)) &&
    f.all fun x => x.isLeaf || coherentTo n (merged x.answer f)

/-- **A forest is coherent** if it is found so on all its levels. -/
theorem coherentTo_iff {n : Nat} {f : List FieldTree} (h : heights f < n) :
    coherentTo n f = true ↔ Coherent f := by
  -- each level that is looked at leaves a forest with fewer levels
  induction n generalizing f with
  | zero => exact absurd h (Nat.not_lt_zero _)
  | succ n ih =>
    simp only [coherentTo, Bool.and_eq_true, List.all_eq_true, decide_eq_true_eq, Bool.or_eq_true]
    constructor
    · rintro ⟨hagree, hbelow⟩
      refine .intro hagree fun x hx hnode => ?_
      have hlt := heights_merged_lt hx hnode
      refine (ih (by omega)).1 ((hbelow x hx).resolve_left ?_)
      rw [hnode]
      exact Bool.false_ne_true
    · rintro ⟨hagree, hbelow⟩
      refine ⟨hagree, fun x hx => ?_⟩
      cases hnode : x.isLeaf with
      | true => exact .inl rfl
      | false =>
        have hlt := heights_merged_lt hx hnode
        exact .inr ((ih (by omega)).2 (hbelow x hx hnode))

instance (f : List FieldTree) : Decidable (Coherent f) :=
  decidable_of_iff _ (coherentTo_iff (Nat.lt_succ_self (heights f)))

end FieldTree

namespace Selection

mutual

/-- The forest of a member. -/
def trees (answer field : String) : Selection → List FieldTree
  | .leaf => [.leaf answer field]
  | .raw _ => [.leaf answer field]
  | .call _ body => trees answer field body
  | .object members _ =>
    if Key.isInlineFragment field then forest members else [.node answer field (forest members)]

/-- The forest of the members of a set. -/
def forest : List (MemberKey × Selection) → List FieldTree
  | [] => []
  | (k, s) :: r => trees k.answer k.field s ++ forest r

end

end Selection

/-- The forest of a selection. -/
def SelectionSet.forest (s : SelectionSet) : List FieldTree := Selection.forest s.members

/-! ### Scalars of a forest -/

/-- Positions as they are seen from a position further up. -/
def ScalarPaths.under (position : ResponsePath) (paths : ScalarPaths) : ScalarPaths :=
  paths.map fun e => (position ++ e.1, e.2)

@[simp] theorem ScalarPaths.under_nil (position : ResponsePath) :
    ScalarPaths.under position [] = [] := rfl

theorem ScalarPaths.under_append (position : ResponsePath) (ps qs : ScalarPaths) :
    ScalarPaths.under position (ps ++ qs) =
      ScalarPaths.under position ps ++ ScalarPaths.under position qs :=
  List.map_append

theorem ScalarPaths.under_under (p q : ResponsePath) (ps : ScalarPaths) :
    ScalarPaths.under p (ScalarPaths.under q ps) = ScalarPaths.under (p ++ q) ps := by
  simp [ScalarPaths.under]

namespace FieldTree

/-- The type one field further; from no type there is nowhere to go. -/
def typeAfter (schema : Schema) (type : Option String) (field : String) : Option String :=
  type.bind fun t => schema.resultField? t field

mutual

/-- The scalars of a tree on a type, with their positions from there. -/
def scalars (schema : Schema) (type : Option String) : FieldTree → ScalarPaths
  | leaf answer field =>
    match (typeAfter schema type field).bind schema.scalarOf? with
    | some name => [([answer], name)]
    | none => []
  | node answer field children =>
    ScalarPaths.under [answer] (allScalars schema (typeAfter schema type field) children)

/-- The scalars of a forest on a type, with their positions from there. -/
def allScalars (schema : Schema) (type : Option String) : List FieldTree → ScalarPaths
  | [] => []
  | t :: r => scalars schema type t ++ allScalars schema type r

end

@[simp] theorem allScalars_nil (schema : Schema) (type : Option String) :
    allScalars schema type [] = [] := rfl

theorem allScalars_cons (schema : Schema) (type : Option String) (t : FieldTree)
    (r : List FieldTree) :
    allScalars schema type (t :: r) = scalars schema type t ++ allScalars schema type r := rfl

theorem allScalars_append (schema : Schema) (type : Option String) (f g : List FieldTree) :
    allScalars schema type (f ++ g) = allScalars schema type f ++ allScalars schema type g := by
  induction f with
  | nil => rfl
  | cons t r ih => rw [List.cons_append, allScalars_cons, allScalars_cons, ih, List.append_assoc]

theorem allBare_append {f g : List FieldTree} : AllBare (f ++ g) ↔ AllBare f ∧ AllBare g := by
  induction f with
  | nil => simp [AllBare]
  | cons t r ih => rw [List.cons_append, AllBare, AllBare, ih, and_assoc]

end FieldTree

/-! ### The walk through a selection -/

namespace Selection

theorem leafPath_eq (schema : Schema) (root : String) (position : ResponsePath)
    (fields : List String) {answer field : String} (ha : Key.purify answer = answer)
    (hf : Key.purify field = field) :
    leafPath schema root position fields answer field =
      ScalarPaths.under position
        (FieldTree.scalars schema (schema.walk? root fields) (.leaf answer field)) := by
  have hname := schema.scalarName?_resultAt root (fields ++ [field])
  rw [schema.walk?_concat] at hname
  change _ = (FieldTree.typeAfter schema (schema.walk? root fields) field).bind _ at hname
  rw [leafPath, FieldTree.scalars, ResponsePath.child, hf, ha, ← hname]
  cases schema.resultAt root (fields ++ [field]) <;> rfl

mutual

/-- The scalars found in a member are those of its forest. -/
theorem scalarPaths_eq (schema : Schema) (root : String) :
    ∀ (s : Selection) (position : ResponsePath) (fields : List String) (answer field : String),
      FieldTree.AllBare (trees answer field s) →
        scalarPaths schema root position fields answer field s =
          ScalarPaths.under position
            (FieldTree.allScalars schema (schema.walk? root fields) (trees answer field s))
  | .leaf, position, fields, answer, field, h => by
    rw [scalarPaths, trees, FieldTree.allScalars_cons, FieldTree.allScalars_nil, List.append_nil]
    exact leafPath_eq schema root position fields h.1.1 h.1.2
  | .raw _, position, fields, answer, field, h => by
    rw [scalarPaths, trees, FieldTree.allScalars_cons, FieldTree.allScalars_nil, List.append_nil]
    exact leafPath_eq schema root position fields h.1.1 h.1.2
  | .call _ body, position, fields, answer, field, h => by
    rw [trees] at h
    rw [scalarPaths, trees]
    exact scalarPaths_eq schema root body position fields answer field h
  | .object members _, position, fields, answer, field, h => by
    rw [trees] at h
    rw [scalarPaths, trees]
    cases hk : Key.isInlineFragment field with
    | true =>
      -- the members stand in the set around the fragment, at its position and on its type
      rw [hk, if_pos rfl] at h
      exact memberScalarPaths_eq schema root members position fields h
    | false =>
      rw [hk, if_neg Bool.false_ne_true] at h
      obtain ⟨⟨⟨ha, hf⟩, hbelow⟩, -⟩ := h
      rw [if_neg Bool.false_ne_true, if_neg Bool.false_ne_true, ResponsePath.child, ha, hf,
        memberScalarPaths_eq schema root members _ _ hbelow, FieldTree.allScalars_cons,
        FieldTree.allScalars_nil, List.append_nil, FieldTree.scalars, ScalarPaths.under_under,
        schema.walk?_concat]
      rfl

/-- The scalars found in the members of a set are those of their forest. -/
theorem memberScalarPaths_eq (schema : Schema) (root : String) :
    ∀ (ms : List (MemberKey × Selection)) (position : ResponsePath) (fields : List String),
      FieldTree.AllBare (forest ms) →
        memberScalarPaths schema root position fields ms =
          ScalarPaths.under position
            (FieldTree.allScalars schema (schema.walk? root fields) (forest ms))
  | [], position, fields, _ => rfl
  | (k, s) :: r, position, fields, h => by
    rw [forest] at h
    obtain ⟨hs, hr⟩ := FieldTree.allBare_append.1 h
    rw [memberScalarPaths, forest, scalarPaths_eq schema root s position fields _ _ hs,
      memberScalarPaths_eq schema root r position fields hr, FieldTree.allScalars_append,
      ScalarPaths.under_append]

end

end Selection

/-- **The positions found in a selection** are those of its forest. -/
theorem SelectionSet.scalarPaths_eq (schema : Schema) (root : String) {s : SelectionSet}
    (h : FieldTree.AllBare s.forest) :
    s.scalarPaths schema root = FieldTree.allScalars schema (some root) s.forest := by
  have hwalk := Selection.memberScalarPaths_eq schema root s.members [] [] h
  rw [scalarPaths, hwalk]
  simp [ScalarPaths.under, forest]

/-! ### Looking a position up -/

namespace ScalarPaths

theorem get?_append (ps qs : ScalarPaths) (p : ResponsePath) :
    get? (ps ++ qs) p = (get? qs p).or (get? ps p) := by
  induction ps with
  | nil => simp [get?]
  | cons e r ih =>
    rw [List.cons_append, get?, ih, get?, Option.or_assoc]

/-- Positions below a name are not where the name is. -/
theorem get?_under_root (name : String) (ps : ScalarPaths) : get? (under [name] ps) [] = none := by
  induction ps with
  | nil => rfl
  | cons e r ih =>
    change (get? (under [name] r) []).or none = none
    rw [ih]
    rfl

/-- A position below a name is looked up below that name. -/
theorem get?_under_cons (name : String) (ps : ScalarPaths) (n : String) (q : ResponsePath) :
    get? (under [name] ps) (n :: q) = if name = n then get? ps q else none := by
  induction ps with
  | nil => simp [get?]
  | cons e r ih =>
    change (get? (under [name] r) (n :: q)).or
      (if name :: e.1 = n :: q then some e.2 else none) = _
    rw [ih, get?]
    by_cases hn : name = n
    · subst hn
      simp
    · simp [hn]

end ScalarPaths

namespace FieldTree

variable {schema : Schema} {type : Option String}

/-- Nothing is found without a name. -/
theorem get?_allScalars_nil : ∀ f : List FieldTree, (allScalars schema type f).get? [] = none
  | [] => rfl
  | .leaf answer field :: r => by
    rw [allScalars_cons, ScalarPaths.get?_append, get?_allScalars_nil r, scalars]
    cases (typeAfter schema type field).bind schema.scalarOf? <;> rfl
  | .node answer field children :: r => by
    rw [allScalars_cons, ScalarPaths.get?_append, get?_allScalars_nil r, scalars,
      ScalarPaths.get?_under_root]
    rfl

/-- A tree with another name has nothing to say about a position. -/
theorem get?_scalars_of_ne {t : FieldTree} {name : String} (h : t.answer ≠ name)
    (q : ResponsePath) : (scalars schema type t).get? (name :: q) = none := by
  cases t with
  | leaf other field =>
    change other ≠ name at h
    rw [scalars]
    cases (typeAfter schema type field).bind schema.scalarOf? with
    | none => rfl
    | some found => simp [ScalarPaths.get?, h]
  | node other field children =>
    change other ≠ name at h
    rw [scalars, ScalarPaths.get?_under_cons, if_neg h]

/-- Where no member has a name, nothing is found below it. -/
theorem get?_allScalars_of_not_mem {f : List FieldTree} {name : String}
    (h : ∀ t ∈ f, t.answer ≠ name) (q : ResponsePath) :
    (allScalars schema type f).get? (name :: q) = none := by
  induction f with
  | nil => rfl
  | cons t r ih =>
    rw [List.forall_mem_cons] at h
    rw [allScalars_cons, ScalarPaths.get?_append, ih h.2, get?_scalars_of_ne h.1]
    rfl

/-- What a leaf has to say about a position that starts with its name. -/
theorem get?_scalars_leaf (name field : String) (q : ResponsePath) :
    (scalars schema type (.leaf name field)).get? (name :: q) =
      if q = [] then (typeAfter schema type field).bind schema.scalarOf? else none := by
  rw [scalars]
  cases (typeAfter schema type field).bind schema.scalarOf? with
  | none => simp [ScalarPaths.get?]
  | some found => cases q <;> simp [ScalarPaths.get?]

/-- Where the members with a name are leaves of one field, its scalar is found at the name. -/
theorem get?_allScalars_leaf {f : List FieldTree} {name field : String}
    (h : ∀ t ∈ f, t.answer = name → t = .leaf name field) (hsome : ∃ t ∈ f, t.answer = name)
    (q : ResponsePath) :
    (allScalars schema type f).get? (name :: q) =
      if q = [] then (typeAfter schema type field).bind schema.scalarOf? else none := by
  induction f with
  | nil => simp at hsome
  | cons t r ih =>
    rw [List.forall_mem_cons] at h
    rw [allScalars_cons, ScalarPaths.get?_append]
    by_cases hr : ∃ t ∈ r, t.answer = name
    · -- the last of the leaves decides, and they all say the same
      rw [ih h.2 hr]
      by_cases ht : t.answer = name
      · rw [h.1 ht, get?_scalars_leaf, Option.or_self]
      · rw [get?_scalars_of_ne ht, Option.or_none]
    · have ht : t.answer = name := by
        obtain ⟨x, hx, hname⟩ := hsome
        cases hx with
        | head => exact hname
        | tail _ hx => exact absurd ⟨x, hx, hname⟩ hr
      have hnone : (allScalars schema type r).get? (name :: q) = none :=
        get?_allScalars_of_not_mem (fun x hx hname => hr ⟨x, hx, hname⟩) q
      rw [hnone, h.1 ht, get?_scalars_leaf, Option.none_or]

theorem merged_cons (name : String) (t : FieldTree) (r : List FieldTree) :
    merged name (t :: r) = (if t.answer = name then t.children else []) ++ merged name r := rfl

/-- **Where the members with a name are nodes** of one field, the scalars below the name are those
of what is merged there. -/
theorem get?_allScalars_node {f : List FieldTree} {name field : String}
    (h : ∀ t ∈ f, t.answer = name → t.field = field ∧ t.isLeaf = false) (q : ResponsePath) :
    (allScalars schema type f).get? (name :: q) =
      (allScalars schema (typeAfter schema type field) (merged name f)).get? q := by
  induction f with
  | nil => rfl
  | cons t r ih =>
    rw [List.forall_mem_cons] at h
    rw [allScalars_cons, ScalarPaths.get?_append, ih h.2, merged_cons, allScalars_append,
      ScalarPaths.get?_append]
    congr 1
    by_cases ht : t.answer = name
    · -- every node of the name adds its scalars, behind those of the nodes before it
      rw [if_pos ht]
      obtain ⟨hfield, hnode⟩ := h.1 ht
      cases t with
      | leaf answer field' => cases hnode
      | node name' field' children =>
        obtain rfl : name' = name := ht
        obtain rfl : field' = field := hfield
        rw [scalars, ScalarPaths.get?_under_cons, if_pos rfl]
        rfl
    · rw [if_neg ht, get?_scalars_of_ne ht]
      rfl

end FieldTree

end FieldQuery
