/-
**What decoding leaves alone.**

Decoding rebuilds every array and every object on its way.  Where no decoder is registered at a
position or below it, the value that is built is the value that was there, order of members
included.  The early returns of decoding a response are instances of this: without coders, or
without scalars, nothing is registered anywhere.

Main results:

* `ScalarPaths.decodeAt_of_no_decoder` — a value without decoders at it or below it is left as it
  is;
* `SelectionSet.decodeResponse_eq_decode` — decoding a response is decoding its data at the
  positions found in the selection, also where it returns early;
* `SelectionSet.decodeResponse_without_shortcut` — **returning early changes nothing**, and data
  without decoders is left as it is.
-/

import FieldQuery.Response.Decode

set_option autoImplicit false

namespace FieldQuery

namespace ScalarPaths

variable {paths : ScalarPaths} {coders : Coders}

/-- No scalar with a decoder is at a position or below it. -/
def NoDecoderFrom (paths : ScalarPaths) (coders : Coders) (position : ResponsePath) : Prop :=
  ∀ q, paths.decoderAt? coders (position ++ q) = none

theorem NoDecoderFrom.child {position : ResponsePath} (h : NoDecoderFrom paths coders position)
    (key : String) : NoDecoderFrom paths coders (position.child key) := by
  intro q
  rw [ResponsePath.child, List.append_assoc]
  exact h _

theorem NoDecoderFrom.here {position : ResponsePath} (h : NoDecoderFrom paths coders position) :
    paths.decoderAt? coders position = none := by
  simpa using h []

mutual

/-- **A value without decoders** at it or below it is left as it is. -/
theorem decodeAt_of_no_decoder {position : ResponsePath}
    (h : NoDecoderFrom paths coders position) :
    ∀ v : Json, decodeAt paths coders position v = .ok v
  | .array items => by
    rw [decodeAt, decodeItems_of_no_decoder h items]
    rfl
  | .object members => by
    rw [decodeAt, h.here]
    dsimp only
    rw [decodeMembers_of_no_decoder h members]
    rfl
  | .null => by simp [decodeAt, h.here]
  | .bool _ => by simp [decodeAt, h.here]
  | .number _ => by simp [decodeAt, h.here]
  | .string _ => by simp [decodeAt, h.here]

theorem decodeItems_of_no_decoder {position : ResponsePath}
    (h : NoDecoderFrom paths coders position) :
    ∀ vs : List Json, decodeItems paths coders position vs = .ok vs
  | [] => rfl
  | v :: r => by
    rw [decodeItems, decodeAt_of_no_decoder h v, decodeItems_of_no_decoder h r]
    rfl

theorem decodeMembers_of_no_decoder {position : ResponsePath}
    (h : NoDecoderFrom paths coders position) :
    ∀ es : List (String × Json), decodeMembers paths coders position es = .ok es
  | [] => rfl
  | (k, v) :: r => by
    rw [decodeMembers, decodeAt_of_no_decoder (h.child k) v, decodeMembers_of_no_decoder h r]
    rfl

end

/-- Where no scalar that was found has a decoder, none is at any position. -/
theorem noDecoderFrom_of_decoder?_eq_none
    (h : ∀ p scalar, paths.get? p = some scalar → coders.decoder? scalar = none)
    (position : ResponsePath) : NoDecoderFrom paths coders position := by
  intro q
  rw [decoderAt?]
  cases hfound : paths.get? (position ++ q) with
  | none => rfl
  | some scalar => simp [h _ scalar hfound]

theorem noDecoderFrom_of_no_coders (h : coders.isEmpty = true) (position : ResponsePath) :
    NoDecoderFrom paths coders position := by
  obtain ⟨entries, hdistinct⟩ := coders
  obtain rfl : entries = [] := List.isEmpty_iff.1 h
  exact noDecoderFrom_of_decoder?_eq_none (fun _ _ _ => rfl) position

end ScalarPaths

/-- **Decoding a response** is decoding its data at the positions found in the selection, also
where it returns early. -/
theorem SelectionSet.decodeResponse_eq_decode (schema : Schema) (coders : Coders)
    (operation : String) (s : SelectionSet) (data : Json) :
    s.decodeResponse schema coders operation data =
      (s.scalarPaths schema (schema.rootType operation)).decode coders data := by
  unfold decodeResponse
  cases hc : coders.isEmpty with
  | true =>
    have hnone : ScalarPaths.NoDecoderFrom (s.scalarPaths schema (schema.rootType operation))
        coders [] := ScalarPaths.noDecoderFrom_of_no_coders hc []
    exact (ScalarPaths.decodeAt_of_no_decoder hnone data).symm
  | false =>
    cases hp : (s.scalarPaths schema (schema.rootType operation)).isEmpty with
    | true =>
      -- no position has a scalar, so the coders are not looked at
      have hnil := List.isEmpty_iff.1 hp
      simp only [Bool.false_eq_true, if_false, hp, if_true]
      rw [hnil]
      exact (ScalarPaths.decodeAt_of_no_decoder (fun _ => rfl) data).symm
    | false => simp only [Bool.false_eq_true, if_false, hp]

/-- **Returning early changes nothing.**  Decoding a response is, in results and errors, decoding
its data at the positions found below the root type, which is the operation itself where it is not
listed; and where no scalar that was found has a decoder, the data is left as it is. -/
theorem SelectionSet.decodeResponse_without_shortcut (schema : Schema) (coders : Coders)
    (operation : String) (s : SelectionSet) (data : Json) :
    let paths := s.scalarPaths schema ((schema.operations.get? operation).getD operation)
    s.decodeResponse schema coders operation data = paths.decode coders data ∧
      ((∀ p scalar, paths.get? p = some scalar → coders.decoder? scalar = none) →
        s.decodeResponse schema coders operation data = .ok data) := by
  intro paths
  have hdecode : s.decodeResponse schema coders operation data = paths.decode coders data :=
    s.decodeResponse_eq_decode schema coders operation data
  refine ⟨hdecode, fun hnone => hdecode.trans ?_⟩
  exact ScalarPaths.decodeAt_of_no_decoder
    (ScalarPaths.noDecoderFrom_of_decoder?_eq_none hnone []) data

end FieldQuery
