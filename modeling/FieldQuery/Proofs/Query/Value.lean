/-
**Values of the query language.**

An argument is written as a value of the query language: a variable, a name, a plain value, or a
list or object of values.  What an encoder makes of a scalar is put in as it stands.  The text of a
value is fixed by its parts, and the place of a part is the list of the numbers under which it is
found on the way from the whole.

Main definitions:

* `QueryValue` — a value of the query language;
* `QueryValue.text`, `QueryValue.argumentsText` — its text, and its text between the parentheses of
  a call;
* `Json.at?`, `QueryValue.at?` — the part at a place of a document, and of a value.

Main results:

* `QueryValue.infix_text_of_at?` — the text of a part stands in the text of the whole.
-/

import FieldQuery.Json.Printer

set_option autoImplicit false

namespace FieldQuery

/-- A value of the query language. -/
inductive QueryValue where
  | variable (name : String)
  | enumeration (name : String)
  | null
  | bool (b : Bool)
  | number (n : Number)
  | string (s : String)
  | list (items : List QueryValue)
  | object (entries : List (String × QueryValue))
  /-- What an encoder wrote. -/
  | verbatim (text : String)
deriving Inhabited

namespace QueryValue

/-! ### Text -/

mutual

/-- The text of a value. -/
def text : QueryValue → String
  | .variable name => "$" ++ name
  | .enumeration name => name
  | .null => Json.null.compact
  | .bool b => (Json.bool b).compact
  | .number n => (Json.number n).compact
  | .string s => Json.quote s
  | .list items => "[" ++ ", ".intercalate (itemTexts items) ++ "]"
  | .object entries => "\x7b" ++ ", ".intercalate (entryTexts entries) ++ "\x7d"
  | .verbatim t => t

/-- The texts of elements. -/
def itemTexts : List QueryValue → List String
  | [] => []
  | v :: r => text v :: itemTexts r

/-- The texts of entries. -/
def entryTexts : List (String × QueryValue) → List String
  | [] => []
  | (k, v) :: r => (k ++ ": " ++ text v) :: entryTexts r

end

/-- The text of a value between the parentheses of a call: an object stands there without its
braces. -/
def argumentsText : QueryValue → String
  | .object entries => ", ".intercalate (entryTexts entries)
  | v => v.text

theorem itemTexts_eq_map (vs : List QueryValue) : itemTexts vs = vs.map text := by
  induction vs with
  | nil => rfl
  | cons v r ih => rw [itemTexts, ih, List.map_cons]

theorem entryTexts_eq_map (es : List (String × QueryValue)) :
    entryTexts es = es.map fun e => e.1 ++ ": " ++ e.2.text := by
  induction es with
  | nil => rfl
  | cons e r ih => rw [entryTexts, ih, List.map_cons]

/-! ### Parts -/

/-- The part with a number, counted from the start. -/
def part? : QueryValue → Nat → Option QueryValue
  | .list items, i => items[i]?
  | .object entries, i => (entries[i]?).map Prod.snd
  | _, _ => none

/-- The part at a place. -/
def at? : QueryValue → List Nat → Option QueryValue
  | v, [] => some v
  | v, i :: place => (v.part? i).bind fun w => w.at? place

end QueryValue

/-- The part of a document with a number, counted from the start. -/
def Json.part? : Json → Nat → Option Json
  | .array items, i => items[i]?
  | .object members, i => (members[i]?).map Prod.snd
  | _, _ => none

/-- The part of a document at a place. -/
def Json.at? : Json → List Nat → Option Json
  | v, [] => some v
  | v, i :: place => (v.part? i).bind fun w => w.at? place

/-- A part that is next below is smaller than the whole. -/
theorem Json.sizeOf_lt_of_part? {v w : Json} {i : Nat} (h : v.part? i = some w) :
    sizeOf w < sizeOf v := by
  cases v with
  | array items =>
    have hmem := List.sizeOf_lt_of_mem (List.mem_of_getElem? h)
    simp only [array.sizeOf_spec]
    omega
  | object members =>
    obtain ⟨⟨k, x⟩, he, rfl⟩ := Option.map_eq_some_iff.1 h
    have hmem := List.sizeOf_lt_of_mem (List.mem_of_getElem? he)
    simp only [Prod.mk.sizeOf_spec] at hmem
    simp only [object.sizeOf_spec]
    omega
  | _ => simp [part?] at h

/-! ### Texts of parts -/

/-- A text that is put between separators stands in the whole. -/
theorem infix_intercalate_of_mem {separator t : String} {ts : List String} (h : t ∈ ts) :
    t.toList <:+: (separator.intercalate ts).toList := by
  induction ts with
  | nil => simp at h
  | cons u r ih =>
    cases r with
    | nil =>
      obtain rfl : t = u := by simpa using h
      exact ⟨[], [], by rw [List.nil_append, List.append_nil, String.intercalate_singleton]⟩
    | cons w r =>
      rw [String.intercalate_cons_cons, String.toList_append, String.toList_append]
      rcases List.mem_cons.1 h with rfl | h
      · -- the first text, with the separator behind it
        exact ⟨[], _, by rw [List.nil_append, List.append_assoc]⟩
      · exact (ih h).trans (List.suffix_append _ _).isInfix

namespace QueryValue

theorem infix_append_append (a t b : String) : t.toList <:+: (a ++ t ++ b).toList :=
  ⟨a.toList, b.toList, by simp⟩

/-- The text of an entry stands between the parentheses of a call. -/
theorem infix_argumentsText_of_part? {entries : List (String × QueryValue)} {w : QueryValue}
    {i : Nat} (h : (object entries).part? i = some w) :
    w.text.toList <:+: (object entries).argumentsText.toList := by
  obtain ⟨e, he, rfl⟩ := Option.map_eq_some_iff.1 h
  have hmem : e.1 ++ ": " ++ e.2.text ∈ entryTexts entries := by
    rw [entryTexts_eq_map]
    exact List.mem_map_of_mem (List.mem_of_getElem? he)
  have hentry := infix_append_append (e.1 ++ ": ") e.2.text ""
  rw [String.append_empty] at hentry
  exact hentry.trans (infix_intercalate_of_mem hmem)

/-- The text of a part that is next below stands in the text of the whole. -/
theorem infix_text_of_part? {v w : QueryValue} {i : Nat} (h : v.part? i = some w) :
    w.text.toList <:+: v.text.toList := by
  cases v with
  | list items =>
    have hmem : w.text ∈ itemTexts items := by
      rw [itemTexts_eq_map]
      exact List.mem_map_of_mem (List.mem_of_getElem? h)
    rw [text]
    exact (infix_intercalate_of_mem hmem).trans (infix_append_append _ _ _)
  | object entries =>
    rw [text]
    exact (infix_argumentsText_of_part? h).trans (infix_append_append _ _ _)
  | _ => simp [part?] at h

/-- **The text of a part stands in the text of the whole.** -/
theorem infix_text_of_at? {v w : QueryValue} {place : List Nat} (h : v.at? place = some w) :
    w.text.toList <:+: v.text.toList := by
  induction place generalizing v with
  | nil =>
    obtain rfl := Option.some.inj h
    exact List.infix_refl _
  | cons i place ih =>
    obtain ⟨u, hu, hw⟩ := Option.bind_eq_some_iff.1 h
    exact (ih hw).trans (infix_text_of_part? hu)

/-- A variable at any place of the arguments stands between the parentheses of the call. -/
theorem infix_argumentsText_of_at? {v : QueryValue} {name : String} {place : List Nat}
    (h : v.at? place = some (.variable name)) :
    ("$" ++ name).toList <:+: v.argumentsText.toList := by
  cases v with
  | object entries =>
    -- an object loses its braces, so the place is entered here and not by the lemma above
    cases place with
    | nil => simp [at?] at h
    | cons i place =>
      obtain ⟨u, hu, hw⟩ := Option.bind_eq_some_iff.1 h
      exact (infix_text_of_at? hw).trans (infix_argumentsText_of_part? hu)
  | _ => simpa only [text, argumentsText] using infix_text_of_at? h

end QueryValue

end FieldQuery
