/-
**Documents that are read again.**

Reading has a budget and a limit.  The budget is fuel, which only has to be there: each step of the
reader pays for a character that it leaves behind, so as much fuel as the text has characters is
enough for it, and what is left over changes nothing.  The limit is a rule: arrays and objects may
be nested so deep and no deeper.

A text reads as a value if it does in front of everything that does not go on with a number.  This
is the right notion because what stands behind a part is always a comma or a bracket.  Such texts
can be put together to arrays and objects, with or without blanks behind the commas, and each array
and object takes one from the limit.

Main definitions:

* `Json.depth` — how deep arrays and objects are nested;
* `Json.HasNoDoubles` — all numbers are whole;
* `Json.ReadsAs` — a text is read as a value within a limit.

Main results:

* `Json.readsAs_array`, `Json.readsAs_object` — texts put together to an array and to an object;
* `Json.readsAs_compact` — **the text of a document** reads as the document;
* `Json.readWith_of_readsAs` — every reader makes of such a text what it makes of the document;
* `Json.read_of_readsAs` — what reads as a document with distinct names is read as it.
-/

import FieldQuery.Json.Reading
import FieldQuery.Proofs.Json.Parts
import Mathlib.Data.List.DropRight
import Mathlib.Data.List.Forall2

set_option autoImplicit false

namespace FieldQuery.Json

/-! ### Depth, and numbers -/

mutual

/-- How deep arrays and objects are nested. -/
def depth : Json → Nat
  | array items => itemsDepth items + 1
  | object members => membersDepth members + 1
  | _ => 0

/-- How deep arrays and objects are nested in elements. -/
def itemsDepth : List Json → Nat
  | [] => 0
  | v :: r => max (depth v) (itemsDepth r)

/-- How deep arrays and objects are nested in members. -/
def membersDepth : List (String × Json) → Nat
  | [] => 0
  | (_, v) :: r => max (depth v) (membersDepth r)

end

mutual

/-- All numbers are whole. -/
def HasNoDoubles : Json → Prop
  | number (.double _) => False
  | array items => ItemsHaveNoDoubles items
  | object members => MembersHaveNoDoubles members
  | _ => True

/-- `HasNoDoubles` of every element. -/
def ItemsHaveNoDoubles : List Json → Prop
  | [] => True
  | v :: r => HasNoDoubles v ∧ ItemsHaveNoDoubles r

/-- `HasNoDoubles` of every member. -/
def MembersHaveNoDoubles : List (String × Json) → Prop
  | [] => True
  | (_, v) :: r => HasNoDoubles v ∧ MembersHaveNoDoubles r

end

/-! ### Blanks -/

theorem skipGap_cons {c : Char} (h : isGap c = false) (r : List Char) :
    skipGap (c :: r) = c :: r := by
  rw [skipGap, List.dropWhile_cons_of_neg (by rw [h]; exact Bool.false_ne_true)]

theorem skipGap_append {gap : List Char} (h : ∀ c ∈ gap, isGap c = true) (cs : List Char) :
    skipGap (gap ++ cs) = skipGap cs := by
  induction gap with
  | nil => rfl
  | cons c gap ih =>
    rw [List.forall_mem_cons] at h
    rw [List.cons_append, skipGap, List.dropWhile_cons_of_pos h.1]
    exact ih h.2

theorem skipGap_skipGap (cs : List Char) : skipGap (skipGap cs) = skipGap cs :=
  List.dropWhile_idempotent isGap cs

/-- Blanks before a value are nothing. -/
theorem outlineValue_skipGap (fuel depth : Nat) (cs : List Char) :
    outlineValue fuel depth (skipGap cs) = outlineValue fuel depth cs := by
  cases fuel with
  | zero => rw [outlineValue, outlineValue]
  | succ fuel => rw [outlineValue, outlineValue, skipGap_skipGap]

theorem outlineItems_skipGap (fuel depth : Nat) (cs : List Char) :
    outlineItems fuel depth (skipGap cs) = outlineItems fuel depth cs := by
  cases fuel with
  | zero => rw [outlineItems, outlineItems]
  | succ fuel => rw [outlineItems, outlineItems, outlineValue_skipGap]

theorem outlineItems_gap {gap : List Char} (h : ∀ c ∈ gap, isGap c = true) (fuel depth : Nat)
    (cs : List Char) : outlineItems fuel depth (gap ++ cs) = outlineItems fuel depth cs := by
  rw [← outlineItems_skipGap, skipGap_append h, outlineItems_skipGap]

/-! ### Texts that read as values -/

/-- In front of everything that does not go on with a number, the text is read as the value, with
`depth` arrays and objects that may still be opened. -/
def ReadsAs (depth : Nat) (cs : List Char) (v : Json) : Prop :=
  ∀ fuel r, cs.length ≤ fuel → EndsNumber r →
    outlineValue fuel depth (cs ++ r) = (.ofJson v, r)

/-- The first character of a text pays for the step that is made at it. -/
theorem readsAs_cons {depth : Nat} {c : Char} {cs : List Char} {v : Json}
    (h : ∀ fuel r, cs.length ≤ fuel → EndsNumber r →
      outlineValue (fuel + 1) depth (c :: (cs ++ r)) = (.ofJson v, r)) :
    ReadsAs depth (c :: cs) v := by
  intro fuel r hfuel hr
  cases fuel with
  | zero => cases hfuel
  | succ fuel => exact h fuel r (Nat.le_of_succ_le_succ hfuel) hr

theorem readsAs_null (depth : Nat) : ReadsAs depth (compactChars .null) .null := by
  refine readsAs_cons fun fuel r _ _ => ?_
  rw [outlineValue, skipGap_cons rfl]
  rfl

theorem readsAs_bool (depth : Nat) (b : Bool) :
    ReadsAs depth (compactChars (.bool b)) (.bool b) := by
  cases b with
  | true =>
    refine readsAs_cons fun fuel r _ _ => ?_
    rw [outlineValue, skipGap_cons rfl]
    rfl
  | false =>
    refine readsAs_cons fun fuel r _ _ => ?_
    rw [outlineValue, skipGap_cons rfl]
    rfl

theorem readsAs_string (depth : Nat) (s : String) :
    ReadsAs depth (quotedChars s.toList) (.string s) := by
  rw [quotedChars, List.cons_append]
  refine readsAs_cons fun fuel r _ _ => ?_
  rw [List.append_assoc, outlineValue, skipGap_cons rfl]
  exact stringOutline_escaped s r

/-- A digit or a minus sign begins a number. -/
theorem outlineValue_number {c : Char} (h : c = '-' ∨ c.isDigit = true) (fuel depth : Nat)
    (cs : List Char) : outlineValue (fuel + 1) depth (c :: cs) = numberOutline (c :: cs) := by
  have hne : ∀ d : Char, ¬ (d = '-' ∨ d.isDigit = true) → c ≠ d := fun d hd hc => hd (hc ▸ h)
  have hgap : isGap c = false := by
    simp [isGap, hne ' ' (by decide), hne '\n' (by decide), hne '\t' (by decide),
      hne '\r' (by decide)]
  rw [outlineValue, skipGap_cons hgap]
  split <;> rename_i heq
  · cases heq
  all_goals obtain ⟨rfl, rfl⟩ := List.cons.inj heq
  -- no other value begins with such a character
  · exact absurd rfl (hne 'n' (by decide))
  · exact absurd rfl (hne 't' (by decide))
  · exact absurd rfl (hne 'f' (by decide))
  · exact absurd rfl (hne '"' (by decide))
  · exact absurd rfl (hne '[' (by decide))
  · exact absurd rfl (hne '\x7b' (by decide))
  · rw [if_pos h]

theorem readsAs_whole (depth : Nat) (n : WideInt) :
    ReadsAs depth n.toText (.number (.whole n)) := by
  obtain ⟨c, cs, htext, hc⟩ := exists_cons_toText n
  rw [htext]
  refine readsAs_cons fun fuel r _ hr => ?_
  rw [outlineValue_number hc, ← List.cons_append, ← htext, numberOutline_toText n hr]
  rfl

/-! ### Arrays -/

theorem ofItems_eq_map (vs : List Json) : Outline.ofItems vs = vs.map Outline.ofJson := by
  induction vs with
  | nil => rfl
  | cons v vs ih => rw [Outline.ofItems, ih, List.map_cons]

theorem ofMembers_eq_map (es : List (String × Json)) :
    Outline.ofMembers es = es.map fun e => (.ok e.1, .ofJson e.2) := by
  induction es with
  | nil => rfl
  | cons e es ih => rw [Outline.ofMembers, ih, List.map_cons]

theorem ofJson_ne_unreadable (v : Json) (fault : Fault) : Outline.ofJson v ≠ .unreadable fault := by
  cases v <;> simp [Outline.ofJson]

/-- Where a document is read, the text is not over and no bracket is closed. -/
theorem exists_skipGap {fuel depth : Nat} {cs r : List Char} {v : Json}
    (h : outlineValue fuel depth cs = (.ofJson v, r)) :
    ∃ c rest, skipGap cs = c :: rest ∧ c ≠ ']' := by
  have hfirst : (outlineValue fuel depth cs).1 = .ofJson v := by rw [h]
  cases fuel with
  | zero =>
    rw [outlineValue] at hfirst
    exact absurd hfirst.symm (ofJson_ne_unreadable v _)
  | succ fuel =>
    rw [outlineValue] at hfirst
    cases hgap : skipGap cs with
    | nil =>
      rw [hgap] at hfirst
      exact absurd hfirst.symm (ofJson_ne_unreadable v _)
    | cons c rest =>
      refine ⟨c, rest, rfl, ?_⟩
      rintro rfl
      rw [hgap] at hfirst
      exact absurd hfirst.symm (ofJson_ne_unreadable v _)

/-- The first element is the value that the elements begin with. -/
theorem head?_outlineItems (fuel depth : Nat) (cs : List Char) :
    (outlineItems (fuel + 1) depth cs).1.head? = some (outlineValue fuel depth cs).1 := by
  rw [outlineItems]
  dsimp only
  split
  · rfl
  · split <;> rfl

/-- A bracket opens an array, whose elements may be nested one less deep. -/
theorem outlineValue_array {fuel depth : Nat} {cs r : List Char} {v : Json} {vs : List Outline}
    (h : outlineItems fuel depth cs = (.ofJson v :: vs, none, r)) :
    outlineValue (fuel + 1) (depth + 1) ('[' :: cs) = (.array (.ofJson v :: vs) none, r) := by
  have hfirst : ∃ c rest, skipGap cs = c :: rest ∧ c ≠ ']' := by
    cases fuel with
    | zero =>
      rw [outlineItems] at h
      cases h
    | succ fuel =>
      have hhead := head?_outlineItems fuel depth cs
      rw [h] at hhead
      exact exists_skipGap (Prod.ext (Option.some.inj hhead).symm rfl)
  obtain ⟨c, rest, hgap, hc⟩ := hfirst
  rw [← outlineItems_skipGap, hgap] at h
  rw [outlineValue, skipGap_cons rfl]
  simp [withinDepth, hgap, hc, h]

/-- The last element of an array. -/
theorem outlineItems_last {fuel depth : Nat} {cs r : List Char} {v : Json}
    (h : outlineValue fuel depth cs = (.ofJson v, ']' :: r)) :
    outlineItems (fuel + 1) depth cs = ([.ofJson v], none, r) := by
  rw [outlineItems, h]
  dsimp only
  rw [Outline.skip_ofJson, skipGap_cons rfl]
  rfl

/-- An element with a comma behind it. -/
theorem outlineItems_comma {fuel depth : Nat} {cs r rest : List Char} {v : Json}
    {vs : List Outline} {stop : Option Fault}
    (h : outlineValue fuel depth cs = (.ofJson v, ',' :: r))
    (hrest : outlineItems fuel depth r = (vs, stop, rest)) :
    outlineItems (fuel + 1) depth cs = (.ofJson v :: vs, stop, rest) := by
  rw [outlineItems, h]
  dsimp only
  rw [Outline.skip_ofJson, skipGap_cons rfl]
  change (_, (outlineItems fuel depth r).2.1, (outlineItems fuel depth r).2.2) = _
  rw [hrest]

theorem endsNumber_comma (r : List Char) : EndsNumber (',' :: r) :=
  endsNumber_cons (by decide) r

/-- The elements of an array, with commas and perhaps blanks between them, up to its end. -/
theorem outlineItems_intercalate {depth : Nat} {gap : List Char}
    (hgap : ∀ c ∈ gap, isGap c = true) {t : List Char} {ts : List (List Char)} {v : Json}
    {vs : List Json} (h : List.Forall₂ (ReadsAs depth) (t :: ts) (v :: vs)) : ∀ fuel r,
    (List.intercalate (',' :: gap) (t :: ts)).length + 1 ≤ fuel →
    outlineItems fuel depth (List.intercalate (',' :: gap) (t :: ts) ++ ']' :: r) =
      ((v :: vs).map .ofJson, none, r) := by
  induction ts generalizing t v vs with
  | nil =>
    obtain ⟨hv, hvs⟩ := List.forall₂_cons.1 h
    obtain rfl := List.forall₂_nil_left_iff.1 hvs
    intro fuel r hfuel
    obtain ⟨fuel, rfl⟩ := Nat.exists_eq_add_of_le' (Nat.le_of_add_left_le hfuel)
    rw [List.intercalate_singleton] at hfuel ⊢
    exact outlineItems_last (hv fuel _ (by omega) (endsNumber_cons (by decide) r))
  | cons t' ts ih =>
    obtain ⟨hv, hvs⟩ := List.forall₂_cons.1 h
    obtain ⟨v', vs, -, -, rfl⟩ := List.forall₂_cons_left_iff.1 hvs
    intro fuel r hfuel
    obtain ⟨fuel, rfl⟩ := Nat.exists_eq_add_of_le' (Nat.le_of_add_left_le hfuel)
    rw [List.intercalate_cons_cons] at hfuel ⊢
    simp only [List.length_append, List.length_cons] at hfuel
    have hrest := ih hvs fuel r (by omega)
    rw [← outlineItems_gap hgap] at hrest
    rw [List.append_assoc, List.append_assoc, List.cons_append]
    exact outlineItems_comma (hv fuel _ (by omega) (endsNumber_comma _)) hrest

/-- **Texts put together to an array** read as the array. -/
theorem readsAs_array {depth : Nat} {gap : List Char} (hgap : ∀ c ∈ gap, isGap c = true)
    {ts : List (List Char)} {vs : List Json} (h : List.Forall₂ (ReadsAs depth) ts vs) :
    ReadsAs (depth + 1) ('[' :: List.intercalate (',' :: gap) ts ++ [']']) (.array vs) := by
  rw [List.cons_append]
  refine readsAs_cons fun fuel r hfuel _ => ?_
  rw [List.length_append] at hfuel
  rw [List.append_assoc, List.singleton_append, Outline.ofJson, ofItems_eq_map]
  cases h with
  | nil =>
    rw [outlineValue, skipGap_cons rfl]
    rfl
  | cons hv hvs =>
    exact outlineValue_array (outlineItems_intercalate hgap (.cons hv hvs) fuel r hfuel)

/-! ### Objects -/

/-- A name with its colon is read before its value. -/
theorem outlineMembers_name (fuel depth : Nat) (name : String) (cs : List Char) :
    outlineMembers (fuel + 1) depth (quotedChars name.toList ++ ':' :: cs) =
      outlineMember fuel depth (.ok name) (':' :: cs) := by
  rw [quotedChars, List.cons_append, List.cons_append, List.append_assoc, List.singleton_append,
    outlineMembers, skipGap_cons rfl]
  simp [literalRead_escaped]

/-- The last member of an object. -/
theorem outlineMember_last {fuel depth : Nat} {cs r : List Char} {v : Json}
    (h : outlineValue fuel depth cs = (.ofJson v, '\x7d' :: r)) (name : Except Flaw String) :
    outlineMember (fuel + 1) depth name (':' :: cs) = ([(name, .ofJson v)], none, r) := by
  rw [outlineMember, skipGap_cons rfl]
  simp [h, Outline.skip_ofJson, skipGap_cons (c := '\x7d') rfl]

/-- A member with a comma behind it. -/
theorem outlineMember_comma {fuel depth : Nat} {cs r rest : List Char} {v : Json}
    {es : List (Except Flaw String × Outline)} {stop : Option Fault}
    (h : outlineValue fuel depth cs = (.ofJson v, ',' :: r))
    (hrest : outlineMembers fuel depth r = (es, stop, rest)) (name : Except Flaw String) :
    outlineMember (fuel + 1) depth name (':' :: cs) = ((name, .ofJson v) :: es, stop, rest) := by
  rw [outlineMember, skipGap_cons rfl]
  simp [h, Outline.skip_ofJson, skipGap_cons (c := ',') rfl, hrest]

/-- The members of an object up to its end. -/
theorem outlineMembers_compact {depth : Nat} : ∀ (e : String × Json) (es : List (String × Json)),
    (∀ x ∈ e :: es, ReadsAs depth x.2.compactChars x.2) → ∀ fuel r,
    (compactMembers (e :: es)).length + 1 ≤ fuel →
    outlineMembers fuel depth (compactMembers (e :: es) ++ '\x7d' :: r) =
      ((e :: es).map fun x => (.ok x.1, .ofJson x.2), none, r)
  | (k, v), [], h, fuel, r, hfuel => by
    have hv : ReadsAs depth v.compactChars v := h (k, v) List.mem_cons_self
    rw [compactMembers] at hfuel ⊢
    simp only [quotedChars, List.length_append, List.length_cons] at hfuel
    obtain ⟨fuel, rfl⟩ := Nat.exists_eq_add_of_le' (show 2 ≤ fuel by omega)
    rw [List.append_assoc, List.cons_append, outlineMembers_name]
    exact outlineMember_last (hv fuel _ (by omega) (endsNumber_cons (by decide) r)) _
  | (k, v), e :: es, h, fuel, r, hfuel => by
    have hv : ReadsAs depth v.compactChars v := h (k, v) List.mem_cons_self
    have hes := (List.forall_mem_cons.1 h).2
    rw [compactMembers] at hfuel ⊢
    simp only [quotedChars, List.length_append, List.length_cons] at hfuel
    obtain ⟨fuel, rfl⟩ := Nat.exists_eq_add_of_le' (show 2 ≤ fuel by omega)
    have hrest := outlineMembers_compact e es hes fuel r (by omega)
    rw [List.append_assoc, List.append_assoc, List.cons_append, List.cons_append,
      outlineMembers_name]
    exact outlineMember_comma (hv fuel _ (by omega) (endsNumber_comma _)) hrest _

/-- A brace opens an object, whose members may be nested one less deep. -/
theorem outlineValue_object {fuel depth : Nat} {cs r : List Char}
    {es : List (Except Flaw String × Outline)}
    (h : outlineMembers fuel depth ('"' :: cs) = (es, none, r)) :
    outlineValue (fuel + 1) (depth + 1) ('\x7b' :: '"' :: cs) = (.object es none, r) := by
  rw [outlineValue, skipGap_cons rfl]
  simp [withinDepth, skipGap_cons (c := '"') rfl, h]

/-- **The members of an object**, put together, read as the object. -/
theorem readsAs_object {depth : Nat} {es : List (String × Json)}
    (h : ∀ e ∈ es, ReadsAs depth e.2.compactChars e.2) :
    ReadsAs (depth + 1) (compactChars (.object es)) (.object es) := by
  rw [compactChars, List.cons_append]
  refine readsAs_cons fun fuel r hfuel _ => ?_
  rw [List.length_append] at hfuel
  rw [List.append_assoc, List.singleton_append, Outline.ofJson, ofMembers_eq_map]
  cases es with
  | nil =>
    rw [outlineValue, skipGap_cons rfl]
    rfl
  | cons e es =>
    have hmembers := outlineMembers_compact e es h fuel r hfuel
    obtain ⟨cs, hcs⟩ : ∃ cs, compactMembers (e :: es) = '"' :: cs := by
      cases es <;> exact ⟨_, by rw [compactMembers, quotedChars]; rfl⟩
    rw [hcs, List.cons_append] at hmembers ⊢
    exact outlineValue_object hmembers

/-! ### All documents -/

theorem compactItems_eq_intercalate : ∀ vs : List Json,
    compactItems vs = List.intercalate [','] (vs.map compactChars)
  | [] => rfl
  | [v] => by rw [compactItems, List.map_singleton, List.intercalate_singleton]
  | v :: w :: vs => by
    rw [compactItems, compactItems_eq_intercalate (w :: vs), List.map_cons (l := w :: vs),
      List.map_cons, List.intercalate_cons_cons, List.append_assoc]
    rfl

mutual

/-- **The text of a document** without blanks reads as the document, if it is not nested deeper
than may be read. -/
theorem readsAs_compact : ∀ (v : Json) {limit : Nat}, v.HasNoDoubles → v.depth ≤ limit →
    ReadsAs limit v.compactChars v
  | .null, limit, _, _ => readsAs_null limit
  | .bool b, limit, _, _ => readsAs_bool limit b
  | .number (.whole n), limit, _, _ => readsAs_whole limit n
  | .number (.double _), _, h, _ => absurd h (by simp [HasNoDoubles])
  | .string s, limit, _, _ => readsAs_string limit s
  | .array items, limit, h, hdepth => by
    rw [depth] at hdepth
    obtain ⟨limit, rfl⟩ := Nat.exists_eq_add_of_le' (Nat.le_of_add_left_le hdepth)
    rw [compactChars, compactItems_eq_intercalate]
    exact readsAs_array (List.forall_mem_nil _)
      (readsAs_compactItems items (by rwa [HasNoDoubles] at h) (Nat.le_of_succ_le_succ hdepth))
  | .object members, limit, h, hdepth => by
    rw [depth] at hdepth
    obtain ⟨limit, rfl⟩ := Nat.exists_eq_add_of_le' (Nat.le_of_add_left_le hdepth)
    exact readsAs_object
      (readsAs_compactMembers members (by rwa [HasNoDoubles] at h) (Nat.le_of_succ_le_succ hdepth))

theorem readsAs_compactItems : ∀ (vs : List Json) {limit : Nat}, ItemsHaveNoDoubles vs →
    itemsDepth vs ≤ limit → List.Forall₂ (ReadsAs limit) (vs.map compactChars) vs
  | [], _, _, _ => .nil
  | v :: vs, limit, h, hdepth => by
    rw [ItemsHaveNoDoubles] at h
    rw [itemsDepth] at hdepth
    exact .cons (readsAs_compact v h.1 (by omega)) (readsAs_compactItems vs h.2 (by omega))

theorem readsAs_compactMembers : ∀ (es : List (String × Json)) {limit : Nat},
    MembersHaveNoDoubles es → membersDepth es ≤ limit →
    ∀ e ∈ es, ReadsAs limit e.2.compactChars e.2
  | [], _, _, _ => nofun
  | (k, v) :: es, limit, h, hdepth => by
    rw [MembersHaveNoDoubles] at h
    rw [membersDepth] at hdepth
    exact List.forall_mem_cons.2
      ⟨readsAs_compact v h.1 (by omega), readsAs_compactMembers es h.2 (by omega)⟩

end

/-- A text that reads as a document has the outline of the document. -/
theorem outlineOf_of_readsAs {cs : List Char} {v : Json} (h : ReadsAs greatestDepth cs v) :
    outlineOf cs = (.ofJson v, none) := by
  have hvalue := h (3 * cs.length + 3) [] (by omega) endsNumber_nil
  rw [List.append_nil] at hvalue
  rw [outlineOf, hvalue]
  rfl

/-- **Every reader** makes of such a text what it makes of the document. -/
theorem readWith_of_readsAs {α : Type} {cs : List Char} {v : Json} (h : ReadsAs greatestDepth cs v)
    (reader : Outline → Except ReadError α) :
    readWith reader (String.ofList cs) = reader (.ofJson v) := by
  rw [readWith, String.toList_ofList, outlineOf_of_readsAs h]
  dsimp only
  cases reader (.ofJson v) <;> rfl

/-- What reads as a document with distinct names is read as it. -/
theorem read_of_readsAs {cs : List Char} {v : Json} (h : ReadsAs greatestDepth cs v)
    (hnames : v.HasDistinctNames) : read (String.ofList cs) = .ok v := by
  rw [read, readWith_of_readsAs h, Outline.value, Outline.content_ofJson]
  change Except.ok v.merged = _
  rw [merged_eq_self v hnames]

/-- **The text of a document** is read as the document. -/
theorem read_compact {v : Json} (hnames : v.HasDistinctNames) (hwhole : v.HasNoDoubles)
    (hdepth : v.depth ≤ greatestDepth) : read v.compact = .ok v :=
  read_of_readsAs (readsAs_compact v hwhole hdepth) hnames

/-- A string is read again. -/
theorem read_quote (s : String) : read (quote s) = .ok (.string s) :=
  read_of_readsAs (readsAs_string greatestDepth s) (by simp [HasDistinctNames])

end FieldQuery.Json
