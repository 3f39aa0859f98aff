/-
**Records that are read.**

A record is read in one pass: a field goes into the record when it comes, and a member of another
name is passed over.  That the record is right at the end does not follow from any single step, for
a later step could undo it.  No step does, if every field has a component of its own: it is set
once, and nothing else touches it.  So each component is what is given for its field, in whatever
order the fields come, and whether the record is an object or an array.

Main definitions:

* `Json.Outline.given?` — what is given for a field;
* `Json.IsRead` — a component is what is given for it, or has kept its default;
* `Json.Record.Sets` — a field sets a component, and no other field does.

Main results:

* `Json.bind_eq_ok` — what succeeds has succeeded in its first part;
* `Json.Record.Sets.of_read` — **after reading, a component is what is given for it**.
-/

import FieldQuery.Json.Reading

set_option autoImplicit false

namespace FieldQuery.Json

/-- A computation that succeeds has succeeded in its first part. -/
theorem bind_eq_ok {ε α β : Type} {x : Except ε α} {f : α → Except ε β} {y : β} :
    x >>= f = .ok y ↔ ∃ a, x = .ok a ∧ f a = .ok y := by
  cases x <;> simp [bind, Except.bind]

/-- The value of the first member with a name. -/
def memberNamed? (name : String) : List (Except Flaw String × Outline) → Option Outline
  | [] => none
  | (.ok key, v) :: rest => if key = name then some v else memberNamed? name rest
  | (.error _, _) :: rest => memberNamed? name rest

/-- What is given for a field of a record: the member of its name, or the element at its place. -/
def Outline.given? (fields : List String) (name : String) : Outline → Option Outline
  | .object members _ => memberNamed? name members
  | .array items _ => (fields.zip items).lookup name
  | _ => none

/-- A component is what is given for it; where nothing is, it has its default. -/
def IsRead {β : Type} (reader : Outline → Except ReadError β) (given : Option Outline)
    (default x : β) : Prop :=
  match given with
  | some o => reader o = .ok x
  | none => x = default

namespace Record

variable {Partial α β : Type}

/-! ### Components of a record -/

/-- A field sets a component of the record, and no other field does. -/
structure Sets (r : Record Partial α) (name : String) (reader : Outline → Except ReadError β)
    (get : Partial → β) : Prop where
  known : name ∈ r.fields
  own : ∀ {o p p'}, r.field name o p = .ok p' → reader o = .ok (get p')
  other : ∀ {field o p p'}, field ∈ r.fields → field ≠ name → r.field field o p = .ok p' →
    get p' = get p

namespace Sets

variable {r : Record Partial α} {name : String} {reader : Outline → Except ReadError β}
  {get : Partial → β}

/-- A step over one member: it is a field that was not there before and is read, or it is none and
is passed over. -/
theorem of_fieldsOfMembers_cons {seen : List String} {key : Except Flaw String} {v : Outline}
    {rest : List (Except Flaw String × Outline)} {p p' : Partial}
    (h : r.fieldsOfMembers seen ((key, v) :: rest) p = .ok p') :
    ∃ k, key = .ok k ∧
      ((k ∈ r.fields ∧ k ∉ seen ∧ ∃ p₁, r.field k v p = .ok p₁ ∧
          r.fieldsOfMembers (k :: seen) rest p₁ = .ok p') ∨
        k ∉ r.fields ∧ r.fieldsOfMembers seen rest p = .ok p') := by
  cases key with
  | error e => cases h
  | ok k =>
    refine ⟨k, rfl, ?_⟩
    change (if r.fields.contains k then _ else _) = _ at h
    by_cases hk : k ∈ r.fields
    · rw [if_pos (List.contains_iff_mem.2 hk)] at h
      by_cases hseen : k ∈ seen
      · rw [if_pos (List.contains_iff_mem.2 hseen)] at h
        cases h
      · rw [if_neg (by simpa using hseen), bind_eq_ok] at h
        exact .inl ⟨hk, hseen, h⟩
    · rw [if_neg (by simpa using hk)] at h
      split at h
      · cases h
      · exact .inr ⟨hk, h⟩

/-- A component that was set is not set again. -/
theorem kept_of_fieldsOfMembers (hsets : r.Sets name reader get)
    {members : List (Except Flaw String × Outline)} :
    ∀ {seen : List String} {p p' : Partial}, name ∈ seen →
      r.fieldsOfMembers seen members p = .ok p' → get p' = get p := by
  induction members with
  | nil =>
    intro seen p p' _ h
    cases h
    rfl
  | cons member rest ih =>
    intro seen p p' hseen h
    obtain ⟨k, -, ⟨hk, hnew, p₁, hp₁, h⟩ | ⟨-, h⟩⟩ := of_fieldsOfMembers_cons h
    · have hne : k ≠ name := fun hkname => hnew (hkname ▸ hseen)
      rw [ih (List.mem_cons_of_mem _ hseen) h, hsets.other hk hne hp₁]
    · exact ih hseen h

theorem of_fieldsOfMembers (hsets : r.Sets name reader get)
    {members : List (Except Flaw String × Outline)} :
    ∀ {seen : List String} {p p' : Partial}, name ∉ seen →
      r.fieldsOfMembers seen members p = .ok p' →
        IsRead reader (memberNamed? name members) (get p) (get p') := by
  induction members with
  | nil =>
    intro seen p p' _ h
    cases h
    rfl
  | cons member rest ih =>
    obtain ⟨key, v⟩ := member
    intro seen p p' hseen h
    obtain ⟨k, rfl, hstep⟩ := of_fieldsOfMembers_cons h
    rw [memberNamed?]
    by_cases hname : k = name
    · subst hname
      rw [if_pos rfl]
      obtain ⟨-, -, p₁, hp₁, h⟩ | ⟨hk, -⟩ := hstep
      · -- from here on the field is one of those that were there
        rw [IsRead, hsets.kept_of_fieldsOfMembers List.mem_cons_self h]
        exact hsets.own hp₁
      · exact absurd hsets.known hk
    · rw [if_neg hname]
      obtain ⟨hk, -, p₁, hp₁, h⟩ | ⟨-, h⟩ := hstep
      · rw [← hsets.other hk hname hp₁]
        exact ih (by simp [hseen, Ne.symm hname]) h
      · exact ih hseen h

/-- The fields that come after that of a component leave it alone. -/
theorem kept_of_fieldsOfItems (hsets : r.Sets name reader get) {origin : Origin}
    {names : List String} :
    ∀ {stop : Option Fault} {index : Nat} {items : List Outline} {p p' : Partial},
      name ∉ names → (∀ k ∈ names, k ∈ r.fields) →
        r.fieldsOfItems origin stop names index items p = .ok p' → get p' = get p := by
  induction names with
  | nil =>
    intro stop index items p p' _ _ h
    cases items with
    | nil =>
      rw [fieldsOfItems, bind_eq_ok] at h
      obtain ⟨-, -, h⟩ := h
      cases h
      rfl
    | cons v rest => cases h
  | cons k names ih =>
    intro stop index items p p' hname hfields h
    rw [List.mem_cons, not_or] at hname
    obtain ⟨hk, hfields⟩ := List.forall_mem_cons.1 hfields
    cases items with
    | nil =>
      rw [fieldsOfItems, bind_eq_ok] at h
      obtain ⟨-, -, h⟩ := h
      split at h
      · exact ih hname.2 hfields h
      · cases h
    | cons v rest =>
      rw [fieldsOfItems, bind_eq_ok] at h
      obtain ⟨p₁, hp₁, h⟩ := h
      rw [ih hname.2 hfields h, hsets.other hk (Ne.symm hname.1) hp₁]

theorem of_fieldsOfItems (hsets : r.Sets name reader get) {origin : Origin} {names : List String} :
    ∀ {stop : Option Fault} {index : Nat} {items : List Outline} {p p' : Partial},
      names.Nodup → (∀ k ∈ names, k ∈ r.fields) →
        r.fieldsOfItems origin stop names index items p = .ok p' →
          IsRead reader ((names.zip items).lookup name) (get p) (get p') := by
  induction names with
  | nil =>
    intro stop index items p p' _ hfields h
    exact hsets.kept_of_fieldsOfItems List.not_mem_nil hfields h
  | cons k names ih =>
    intro stop index items p p' hnodup hfields h
    obtain ⟨hk, hnodup⟩ := List.nodup_cons.1 hnodup
    obtain ⟨hknown, hfields⟩ := List.forall_mem_cons.1 hfields
    cases items with
    | nil =>
      rw [fieldsOfItems, bind_eq_ok] at h
      obtain ⟨-, -, h⟩ := h
      split at h
      · have hrest := ih hnodup hfields h
        rw [List.zip_nil_right] at hrest ⊢
        exact hrest
      · cases h
    | cons v rest =>
      rw [fieldsOfItems, bind_eq_ok] at h
      obtain ⟨p₁, hp₁, h⟩ := h
      rw [List.zip_cons_cons, List.lookup_cons]
      by_cases hname : k = name
      · subst hname
        rw [beq_self_eq_true]
        change reader v = _
        rw [hsets.kept_of_fieldsOfItems hk hfields h]
        exact hsets.own hp₁
      · rw [beq_false_of_ne (Ne.symm hname), ← hsets.other hknown hname hp₁]
        exact ih hnodup hfields h

/-- **After reading, a component is what is given for it.** -/
theorem of_read (hsets : r.Sets name reader get) (hnodup : r.fields.Nodup) {origin : Origin}
    {o : Outline} {x : α} (h : r.read origin o = .ok x) :
    ∃ p, r.finish p = .ok x ∧ IsRead reader (o.given? r.fields name) (get r.start) (get p) := by
  cases o with
  | object members stop =>
    simp only [Record.read, bind_eq_ok] at h
    obtain ⟨p, hp, -, -, hx⟩ := h
    exact ⟨p, hx, hsets.of_fieldsOfMembers List.not_mem_nil hp⟩
  | array items stop =>
    simp only [Record.read, bind_eq_ok] at h
    obtain ⟨p, hp, hx⟩ := h
    exact ⟨p, hx, hsets.of_fieldsOfItems hnodup (fun _ hk => hk) hp⟩
  | _ => cases h

end Sets

end Record

end FieldQuery.Json
