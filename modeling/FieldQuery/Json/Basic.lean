/-
**Documents.**

The values that arguments, variables, selections and responses are made of.  An object is the list
of its members in order; a document that was read has distinct names at every depth, because a
name that is repeated keeps its first place and takes the last value.

Main definitions:

* `Json` — null, booleans, numbers, strings, arrays and objects;
* `Json.HasDistinctNames` — no object at any depth repeats a name;
* `Json.merged` — a document in which every object has been rid of repeated names;
* `Json.get?` — a member of an object;
* `Json.same` — equality of documents, order of members included.

Main results:

* `Json.hasDistinctNames_merged`, `Json.merged_eq_self` — merging makes names distinct, and leaves
  a document with distinct names as it is;
* `Json.same_iff` — `Json.same` decides equality.
-/

import FieldQuery.Dictionary
import FieldQuery.Number.Basic

set_option autoImplicit false

namespace FieldQuery

/-- A document. -/
inductive Json where
  | null
  | bool (b : Bool)
  | number (n : Number)
  | string (s : String)
  | array (items : List Json)
  | object (members : List (String × Json))
deriving Inhabited, Repr

namespace Json

/-! ### Parts of a document -/

/-- A member of an object. -/
def get? : Json → String → Option Json
  | object members, name => Entries.get? members name
  | _, _ => none

/-- The text of a string. -/
def asString? : Json → Option String
  | string s => some s
  | _ => none

/-- The members of an object. -/
def asObject? : Json → Option (Entries Json)
  | object members => some members
  | _ => none

/-- The document is an object. -/
def isObject : Json → Bool
  | object _ => true
  | _ => false

/-- The document is an array. -/
def isArray : Json → Bool
  | array _ => true
  | _ => false

/-! ### Distinct names -/

mutual

/-- No object at any depth repeats a name. -/
def HasDistinctNames : Json → Prop
  | array items => AllHaveDistinctNames items
  | object members => (Entries.keys members).Nodup ∧ MembersHaveDistinctNames members
  | _ => True

/-- `HasDistinctNames` of every element. -/
def AllHaveDistinctNames : List Json → Prop
  | [] => True
  | v :: r => HasDistinctNames v ∧ AllHaveDistinctNames r

/-- `HasDistinctNames` of every member. -/
def MembersHaveDistinctNames : List (String × Json) → Prop
  | [] => True
  | (_, v) :: r => HasDistinctNames v ∧ MembersHaveDistinctNames r

end

/-! ### Merging repeated names -/

mutual

/-- Every object rid of repeated names: the first place and the last value of each stay. -/
def merged : Json → Json
  | array items => array (mergedItems items)
  | object members => object (Entries.merged (mergedMembers members))
  | null => null
  | bool b => bool b
  | number n => number n
  | string s => string s

/-- The elements, each merged. -/
def mergedItems : List Json → List Json
  | [] => []
  | v :: r => merged v :: mergedItems r

/-- The members, the value of each merged. -/
def mergedMembers : List (String × Json) → List (String × Json)
  | [] => []
  | (k, v) :: r => (k, merged v) :: mergedMembers r

end

theorem keys_mergedMembers : ∀ es : List (String × Json),
    Entries.keys (mergedMembers es) = Entries.keys es
  | [] => rfl
  | (k, v) :: r => by rw [mergedMembers, Entries.keys_cons, Entries.keys_cons, keys_mergedMembers r]

mutual

/-- Merging leaves a document with distinct names as it is. -/
theorem merged_eq_self : ∀ v : Json, v.HasDistinctNames → v.merged = v
  | null, _ => rfl
  | bool _, _ => rfl
  | number _, _ => rfl
  | string _, _ => rfl
  | array items, h => by
    rw [HasDistinctNames] at h
    rw [merged, mergedItems_eq_self items h]
  | object members, h => by
    rw [HasDistinctNames] at h
    rw [merged, mergedMembers_eq_self members h.2, Entries.merged_eq_self h.1]

theorem mergedItems_eq_self : ∀ vs : List Json, AllHaveDistinctNames vs → mergedItems vs = vs
  | [], _ => rfl
  | v :: r, h => by
    rw [AllHaveDistinctNames] at h
    rw [mergedItems, merged_eq_self v h.1, mergedItems_eq_self r h.2]

theorem mergedMembers_eq_self : ∀ es : List (String × Json),
    MembersHaveDistinctNames es → mergedMembers es = es
  | [], _ => rfl
  | (k, v) :: r, h => by
    rw [MembersHaveDistinctNames] at h
    rw [mergedMembers, merged_eq_self v h.1, mergedMembers_eq_self r h.2]

end

theorem membersHaveDistinctNames_iff (es : List (String × Json)) :
    MembersHaveDistinctNames es ↔ ∀ e ∈ es, e.2.HasDistinctNames := by
  induction es with
  | nil => simp [MembersHaveDistinctNames]
  | cons e r ih => obtain ⟨k, v⟩ := e; simp [MembersHaveDistinctNames, ih]

mutual

/-- Merging makes the names distinct at every depth. -/
theorem hasDistinctNames_merged : ∀ v : Json, v.merged.HasDistinctNames
  | null => by simp [merged, HasDistinctNames]
  | bool _ => by simp [merged, HasDistinctNames]
  | number _ => by simp [merged, HasDistinctNames]
  | string _ => by simp [merged, HasDistinctNames]
  | array items => by
    rw [merged, HasDistinctNames]
    exact allHaveDistinctNames_merged items
  | object members => by
    rw [merged, HasDistinctNames]
    refine ⟨Entries.nodup_merged _, (membersHaveDistinctNames_iff _).2 fun e he => ?_⟩
    exact (membersHaveDistinctNames_iff _).1 (membersHaveDistinctNames_merged members) e
      (Entries.mem_of_mem_merged he)

theorem allHaveDistinctNames_merged : ∀ vs : List Json, AllHaveDistinctNames (mergedItems vs)
  | [] => by simp [mergedItems, AllHaveDistinctNames]
  | v :: r => by
    rw [mergedItems, AllHaveDistinctNames]
    exact ⟨hasDistinctNames_merged v, allHaveDistinctNames_merged r⟩

theorem membersHaveDistinctNames_merged : ∀ es : List (String × Json),
    MembersHaveDistinctNames (mergedMembers es)
  | [] => by simp [mergedMembers, MembersHaveDistinctNames]
  | (k, v) :: r => by
    rw [mergedMembers, MembersHaveDistinctNames]
    exact ⟨hasDistinctNames_merged v, membersHaveDistinctNames_merged r⟩

end

/-! ### Equality -/

mutual

/-- Two documents are equal, order of members included. -/
def same : Json → Json → Bool
  | null, null => true
  | bool a, bool b => a == b
  | number a, number b => decide (a = b)
  | string a, string b => a == b
  | array a, array b => sameItems a b
  | object a, object b => sameMembers a b
  | _, _ => false

/-- Two lists of documents are equal. -/
def sameItems : List Json → List Json → Bool
  | [], [] => true
  | a :: r, b :: s => same a b && sameItems r s
  | _, _ => false

/-- Two lists of members are equal. -/
def sameMembers : List (String × Json) → List (String × Json) → Bool
  | [], [] => true
  | (j, a) :: r, (k, b) :: s => j == k && same a b && sameMembers r s
  | _, _ => false

end

mutual

/-- `Json.same` decides equality. -/
theorem same_iff : ∀ a b : Json, same a b = true ↔ a = b
  | null, b => by cases b <;> simp [same]
  | bool _, b => by cases b <;> simp [same]
  | number _, b => by cases b <;> simp [same]
  | string _, b => by cases b <;> simp [same]
  | array a, b => by cases b <;> simp [same, sameItems_iff a]
  | object a, b => by cases b <;> simp [same, sameMembers_iff a]

theorem sameItems_iff : ∀ a b : List Json, sameItems a b = true ↔ a = b
  | [], b => by cases b <;> simp [sameItems]
  | a :: r, b => by cases b <;> simp [sameItems, same_iff a, sameItems_iff r]

theorem sameMembers_iff : ∀ a b : List (String × Json), sameMembers a b = true ↔ a = b
  | [], b => by cases b <;> simp [sameMembers]
  | (j, a) :: r, b => by
    cases b with
    | nil => simp [sameMembers]
    | cons e s => simp [sameMembers, same_iff a, sameMembers_iff r, Prod.ext_iff]

end

instance : DecidableEq Json := fun a b => decidable_of_iff _ (same_iff a b)

end Json

end FieldQuery
