/-
**What a reply says.**

A reply is a record with three fields, each of which sets one component.  So the data, the errors
and the extensions of a reply are those that its text gives, in whatever order they come, and
whether the reply is an object or an array.  Errors that are null say as little as errors that are
not given; a list of none does say something.

Main definitions:

* `Reply.given?` — what is given for a field.

Main results:

* `Reply.of_read` — **a reply holds what its text gives**;
* `Reply.errors_eq_none_iff` — a reply has no errors exactly if none are given or they are null.
-/

import FieldQuery.Proofs.Transport.Payload

set_option autoImplicit false

namespace FieldQuery

namespace Json

/-- Only null is read as nothing. -/
theorem optional_eq_none_iff {β : Type} {reader : Outline → Except ReadError β} {o : Outline} :
    o.optional reader = .ok none ↔ o = .null := by
  cases o with
  | null => exact ⟨fun _ => rfl, fun _ => rfl⟩
  | _ =>
    constructor
    · intro h
      rw [Outline.optional] at h
      · cases hr : reader _ <;> rw [hr] at h <;> cases h
      · intro h
        cases h
    · intro h
      cases h

end Json

/-! ### Replies -/

namespace Reply

open Json

/-- What a text gives for a field of a reply. -/
def given? (text field : String) : Option Outline :=
  (outlineOf text.toList).1.given? (record .text).fields field

/-- The list of the errors of a reply. -/
def readErrors (origin : Origin) : Outline → Except ReadError (Option (List ReplyError)) :=
  Outline.optional (Outline.sequence (ReplyError.record.read origin))

/-- A field of a reply is read, and put where it belongs. -/
theorem of_field {origin : Origin} {field : String} {o : Outline} {r r' : Reply}
    (h : (record origin).field field o r = .ok r') :
    (field = "data" ∧ ∃ x, o.optional Outline.value = .ok x ∧ r' = { r with data := x }) ∨
      (field = "errors" ∧ ∃ x, readErrors origin o = .ok x ∧ r' = { r with errors := x }) ∨
      field ≠ "data" ∧ field ≠ "errors" ∧
        ∃ x, o.optional Outline.value = .ok x ∧ r' = { r with extensions := x } := by
  simp only [record] at h
  split_ifs at h with hdata herrors
  · obtain ⟨x, hx, h⟩ := bind_eq_ok.1 h
    cases h
    exact .inl ⟨hdata, x, hx, rfl⟩
  · obtain ⟨x, hx, h⟩ := bind_eq_ok.1 h
    cases h
    exact .inr (.inl ⟨herrors, x, hx, rfl⟩)
  · obtain ⟨x, hx, h⟩ := bind_eq_ok.1 h
    cases h
    exact .inr (.inr ⟨hdata, herrors, x, hx, rfl⟩)

theorem sets_data (origin : Origin) :
    (record origin).Sets "data" (Outline.optional Outline.value) data where
  known := List.mem_cons_self
  own h := by
    obtain ⟨-, x, hx, rfl⟩ | ⟨h, -⟩ | ⟨h, -⟩ := of_field h
    · exact hx
    · exact absurd h (by decide)
    · exact absurd rfl h
  other _ hne h := by
    obtain ⟨h, -⟩ | ⟨-, x, -, rfl⟩ | ⟨-, -, x, -, rfl⟩ := of_field h
    · exact absurd h hne
    · rfl
    · rfl

theorem sets_errors (origin : Origin) :
    (record origin).Sets "errors" (readErrors origin) errors where
  known := List.mem_cons_of_mem _ List.mem_cons_self
  own h := by
    obtain ⟨h, -⟩ | ⟨-, x, hx, rfl⟩ | ⟨-, h, -⟩ := of_field h
    · exact absurd h (by decide)
    · exact hx
    · exact absurd rfl h
  other _ hne h := by
    obtain ⟨-, x, -, rfl⟩ | ⟨h, -⟩ | ⟨-, -, x, -, rfl⟩ := of_field h
    · rfl
    · exact absurd h hne
    · rfl

theorem sets_extensions (origin : Origin) :
    (record origin).Sets "extensions" (Outline.optional Outline.value) extensions where
  known := List.mem_cons_of_mem _ (List.mem_cons_of_mem _ List.mem_cons_self)
  own h := by
    obtain ⟨h, -⟩ | ⟨h, -⟩ | ⟨-, -, x, hx, rfl⟩ := of_field h
    · exact absurd h (by decide)
    · exact absurd h (by decide)
    · exact hx
  other hknown hne h := by
    obtain ⟨-, x, -, rfl⟩ | ⟨-, x, -, rfl⟩ | ⟨hdata, herrors, -⟩ := of_field h
    · rfl
    · rfl
    · -- the three fields are all there are
      simp only [record, List.mem_cons, List.not_mem_nil, or_false] at hknown
      rcases hknown with h | h | h
      · exact absurd h hdata
      · exact absurd h herrors
      · exact absurd h hne

/-- **A reply holds what its text gives.** -/
theorem of_read {text : String} {reply : Reply} (h : read text = .ok reply) :
    IsRead (Outline.optional Outline.value) (given? text "data") none reply.data ∧
      IsRead (readErrors .text) (given? text "errors") none reply.errors ∧
      IsRead (Outline.optional Outline.value) (given? text "extensions") none
        reply.extensions := by
  simp only [read, readWith, bind_eq_ok] at h
  obtain ⟨x, hx, hend⟩ := h
  obtain rfl : x = reply := by
    split at hend <;> cases hend
    rfl
  have hnodup : (record .text).fields.Nodup := by decide
  obtain ⟨_, ⟨⟩, hdata⟩ := (sets_data .text).of_read hnodup hx
  obtain ⟨_, ⟨⟩, herrors⟩ := (sets_errors .text).of_read hnodup hx
  obtain ⟨_, ⟨⟩, hextensions⟩ := (sets_extensions .text).of_read hnodup hx
  exact ⟨hdata, herrors, hextensions⟩

/-- **A reply has no errors exactly if none are given or they are null.** -/
theorem errors_eq_none_iff {text : String} {reply : Reply} (h : read text = .ok reply) :
    reply.errors = none ↔ given? text "errors" = none ∨ given? text "errors" = some .null := by
  obtain ⟨-, herrors, -⟩ := of_read h
  cases hgiven : given? text "errors" with
  | none =>
    rw [hgiven] at herrors
    exact ⟨fun _ => .inl rfl, fun _ => herrors⟩
  | some o =>
    rw [hgiven] at herrors
    constructor
    · intro hnone
      rw [hnone] at herrors
      exact .inr (congrArg some (optional_eq_none_iff.1 herrors))
    · rintro (hgiven | hgiven)
      · cases hgiven
      · obtain rfl := Option.some.inj hgiven
        exact (Except.ok.inj herrors).symm

end Reply

end FieldQuery
