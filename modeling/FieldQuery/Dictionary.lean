/-
**Dictionaries that keep their order.**

Every mapping of this library shows its order somewhere: in a compiled query, in a written
document, in a list of declarations.  A dictionary is therefore the list of its entries in the
order in which their keys first came, with every key once.  Writing to a key that is there keeps
its place; a new key goes to the end.

Main definitions:

* `Entries` — entries in order, with `Entries.get?`, `Entries.put` and `Entries.merged`;
* `Dictionary` — entries whose keys are distinct, with `get?`, `insert` and `ofEntries`.

Main results:

* `Entries.keys_put` — what writing does to the keys;
* `Entries.get?_put` — what writing does to the values;
* `Entries.merged_eq_self` — distinct keys are left as they are;
* `Entries.nodup_merged` — merging makes keys distinct.
-/

set_option autoImplicit false

namespace FieldQuery

universe u v

/-- Keyed values in order; a key may occur more than once. -/
abbrev Entries (α : Type u) := List (String × α)

namespace Entries

variable {α : Type u} {β : Type v}

/-! ### Reading and writing -/

/-- The keys in order. -/
def keys (es : Entries α) : List String := es.map Prod.fst

/-- The value of the first entry with the key `k`. -/
def get? : Entries α → String → Option α
  | [], _ => none
  | (k', x) :: r, k => if k' = k then some x else get? r k

/-- Gives the key `k` the value `x`, in its old place or else at the end. -/
def put (k : String) (x : α) : Entries α → Entries α
  | [] => [(k, x)]
  | (k', y) :: r => if k' = k then (k, x) :: r else (k', y) :: put k x r

/-- The entries written one after another: of a key that occurs twice the first place and the last
value stay. -/
def merged (es : Entries α) : Entries α := es.foldl (fun acc (k, x) => acc.put k x) []

@[simp] theorem keys_nil : keys ([] : Entries α) = [] := rfl

@[simp] theorem keys_cons (e : String × α) (r : Entries α) : keys (e :: r) = e.1 :: keys r := rfl

@[simp] theorem keys_append (es fs : Entries α) : keys (es ++ fs) = keys es ++ keys fs := by
  simp [keys]

/-! ### What writing does -/

/-- Writing adds a key at the end, and none where the key is there. -/
theorem keys_put (k : String) (x : α) (es : Entries α) :
    keys (es.put k x) = if k ∈ keys es then keys es else keys es ++ [k] := by
  induction es with
  | nil => simp [put]
  | cons e r ih =>
    obtain ⟨k', y⟩ := e
    by_cases h : k' = k
    · simp [put, h]
    · have h' : k ≠ k' := fun e => h e.symm
      simp only [put, h, if_false, keys_cons, List.mem_cons, h', false_or, ih]
      split <;> simp

theorem put_of_not_mem {k : String} {es : Entries α} (h : k ∉ keys es) (x : α) :
    es.put k x = es ++ [(k, x)] := by
  induction es with
  | nil => rfl
  | cons e r ih =>
    obtain ⟨k', y⟩ := e
    simp only [keys_cons, List.mem_cons, not_or] at h
    rw [put, if_neg (Ne.symm h.1), ih h.2, List.cons_append]

/-- After writing, the key has the new value and every other key its old one. -/
theorem get?_put (k k' : String) (x : α) (es : Entries α) :
    (es.put k x).get? k' = if k = k' then some x else es.get? k' := by
  induction es with
  | nil => simp [put, get?]
  | cons e r ih =>
    obtain ⟨k₀, y⟩ := e
    by_cases h : k₀ = k
    · subst h
      by_cases h' : k₀ = k' <;> simp [put, get?, h']
    · by_cases h' : k₀ = k'
      · subst h'
        simp [put, get?, h, Ne.symm h]
      · simp [put, get?, h, h', ih]

theorem nodup_put {es : Entries α} (h : (keys es).Nodup) (k : String) (x : α) :
    (keys (es.put k x)).Nodup := by
  rw [keys_put]
  split
  · exact h
  · rename_i hk
    rw [List.nodup_append]
    exact ⟨h, by simp, by intro a ha b hb; simp only [List.mem_singleton] at hb; subst hb;
                          exact fun e => hk (e ▸ ha)⟩

/-! ### Merging -/

private theorem nodup_foldl_put (es : Entries α) :
    ∀ acc : Entries α, (keys acc).Nodup →
      (keys (es.foldl (fun acc (k, x) => acc.put k x) acc)).Nodup := by
  induction es with
  | nil => intro acc h; exact h
  | cons e r ih => intro acc h; exact ih _ (nodup_put h _ _)

/-- Merging makes keys distinct. -/
theorem nodup_merged (es : Entries α) : (keys (merged es)).Nodup :=
  nodup_foldl_put es [] (by simp)

theorem mem_of_mem_put {k : String} {x : α} {es : Entries α} {e : String × α}
    (h : e ∈ es.put k x) : e = (k, x) ∨ e ∈ es := by
  induction es with
  | nil => simpa [put] using h
  | cons f r ih =>
    obtain ⟨k', y⟩ := f
    rw [put] at h
    split at h
    · rcases List.mem_cons.1 h with h | h
      · exact .inl h
      · exact .inr (by simp [h])
    · rcases List.mem_cons.1 h with h | h
      · exact .inr (by simp [h])
      · exact (ih h).imp_right fun h => by simp [h]

private theorem mem_of_mem_foldl_put (es : Entries α) (e : String × α) :
    ∀ acc : Entries α, e ∈ es.foldl (fun acc (k, x) => acc.put k x) acc → e ∈ acc ∨ e ∈ es := by
  induction es with
  | nil => intro acc h; exact .inl h
  | cons f r ih =>
    intro acc h
    rcases ih _ h with h | h
    · exact (mem_of_mem_put h).symm.imp_right fun h => by simp [h]
    · exact .inr (by simp [h])

/-- Merging makes up no entries. -/
theorem mem_of_mem_merged {es : Entries α} {e : String × α} (h : e ∈ merged es) : e ∈ es :=
  (mem_of_mem_foldl_put es e [] h).resolve_left (by simp)

private theorem foldl_put_of_nodup (es : Entries α) :
    ∀ acc : Entries α, (keys (acc ++ es)).Nodup →
      es.foldl (fun acc (k, x) => acc.put k x) acc = acc ++ es := by
  induction es with
  | nil => intro acc _; simp
  | cons e r ih =>
    obtain ⟨k, x⟩ := e
    intro acc h
    have hk : k ∉ keys acc := by
      intro hm
      rw [keys_append, List.nodup_append] at h
      exact h.2.2 _ hm k (by simp) rfl
    show r.foldl (fun acc (k, x) => acc.put k x) (acc.put k x) = acc ++ (k, x) :: r
    rw [put_of_not_mem hk, ih _ (by simpa using h)]
    simp

/-- Merging leaves distinct keys as they are. -/
theorem merged_eq_self {es : Entries α} (h : (keys es).Nodup) : merged es = es := by
  simpa [merged] using foldl_put_of_nodup es [] (by simpa using h)

end Entries

/-! ### Dictionaries -/

/-- Entries with distinct keys. -/
structure Dictionary (α : Type u) where
  entries : Entries α
  distinct : entries.keys.Nodup
deriving DecidableEq

namespace Dictionary

variable {α : Type u}

/-- The dictionary without entries. -/
def empty : Dictionary α := ⟨[], by simp⟩

instance : Inhabited (Dictionary α) := ⟨empty⟩

/-- The value of a key. -/
def get? (d : Dictionary α) (k : String) : Option α := d.entries.get? k

/-- Gives the key `k` the value `x`, in its old place or else at the end. -/
def insert (d : Dictionary α) (k : String) (x : α) : Dictionary α :=
  ⟨d.entries.put k x, Entries.nodup_put d.distinct k x⟩

/-- The entries written one after another. -/
def ofEntries (es : Entries α) : Dictionary α := ⟨es.merged, es.nodup_merged⟩

/-- The number of keys. -/
def size (d : Dictionary α) : Nat := d.entries.length

/-- There are no keys. -/
def isEmpty (d : Dictionary α) : Bool := d.entries.isEmpty

/-- The keys in order. -/
def keys (d : Dictionary α) : List String := d.entries.keys

@[ext] theorem ext {d e : Dictionary α} (h : d.entries = e.entries) : d = e := by
  cases d; cases e; cases h; rfl

@[simp] theorem entries_insert (d : Dictionary α) (k : String) (x : α) :
    (d.insert k x).entries = d.entries.put k x := rfl

theorem get?_insert (d : Dictionary α) (k k' : String) (x : α) :
    (d.insert k x).get? k' = if k = k' then some x else d.get? k' :=
  Entries.get?_put k k' x d.entries

/-- A dictionary is built back from its entries. -/
@[simp] theorem ofEntries_entries (d : Dictionary α) : ofEntries d.entries = d :=
  ext (Entries.merged_eq_self d.distinct)

end Dictionary

end FieldQuery
