/-
**A single position with a scalar.**

Where several positions have scalars, one may lie below another, and a value that should have been
decoded is passed over because it lies in a value that was.  With a single position this cannot
happen: all that stands above it is walked through, and what stands at a place with this position is
decoded as it would be alone.  Another value may still stand in the way of the whole, as an array
can lead to several places with the same position, and one that cannot be decoded fails for all.

Main definitions:

* `ScalarPaths.OthersDecode` — the values at all other places with the position can be decoded;
* `Json.wrapped` — a response with a single value in it.

Main results:

* `ScalarPaths.hit_append` — the hits at and below such a place are those of the value there;
* `ScalarPaths.at?_of_decodeAt` — such a place has what decoding makes of its value;
* `ScalarPaths.exists_decode_at?` — **a value at the single position** is decoded;
* `ScalarPaths.othersDecode_wrapped` — in a response with a single value nothing stands in the way.
-/

import FieldQuery.Proofs.Response.Hits

set_option autoImplicit false

namespace FieldQuery

namespace ScalarPaths

variable {coders : Coders} {scalar : String} {p base : ResponsePath} {r v w : Json}
  {place : List Nat}

theorem decoderAt?_single (p q : ResponsePath) (scalar : String) (coders : Coders) :
    decoderAt? [(p, scalar)] coders q =
      if p = q then (coders.decoder? scalar).map (scalar, ·) else none := by
  by_cases h : p = q
  · cases hdecoder : coders.decoder? scalar <;> simp [decoderAt?, get?, h, hdecoder]
  · simp [decoderAt?, get?, h]

/-- What stands above a place with the position is walked through. -/
theorem passes_above {u : Json} {i : Nat} (hu : v.part? i = some u)
    (hp : base ++ v.position (i :: place) = p) : Passes [(p, scalar)] coders base v := by
  cases v with
  | array items => exact .inl rfl
  | object members =>
    obtain ⟨⟨k, x⟩, hk, rfl⟩ := Option.map_eq_some_iff.1 hu
    rw [Json.position_cons hu, Json.enter_object hk, ResponsePath.child] at hp
    -- the position of the place is longer by the name of the member
    have hne : p ≠ base := by
      rintro rfl
      have hlength := congrArg List.length hp
      simp only [List.length_append, List.length_singleton] at hlength
      omega
    exact .inr (by rw [decoderAt?_single, if_neg hne])
  | _ => simp [Json.part?] at hu

/-- The hits at and below a place with the position are those of the value there. -/
theorem hit_append (hat : r.at? place = some w) (hp : base ++ r.position place = p)
    (below : List Nat) {u : Json} {found : String × (Json → Except CoderError Json)} :
    Hit [(p, scalar)] coders base r (place ++ below) u found ↔
      Hit [(p, scalar)] coders p w below u found := by
  induction place generalizing r base with
  | nil =>
    obtain rfl := Option.some.inj hat
    rw [Json.position, List.append_nil] at hp
    rw [List.nil_append, hp]
  | cons i place ih =>
    obtain ⟨x, hx, hat⟩ := Option.bind_eq_some_iff.1 hat
    rw [List.cons_append, hit_cons (passes_above hx hp) hx]
    exact ih hat (by rwa [← Json.position_cons hx])

/-- A place with the position has what decoding makes of its value. -/
theorem at?_of_decodeAt {r' : Json} (hat : r.at? place = some w)
    (hp : base ++ r.position place = p) (h : decodeAt [(p, scalar)] coders base r = .ok r') :
    ∃ x, r'.at? place = some x ∧ decodeAt [(p, scalar)] coders p w = .ok x := by
  induction place generalizing r r' base with
  | nil =>
    obtain rfl := Option.some.inj hat
    rw [Json.position, List.append_nil] at hp
    exact ⟨r', rfl, hp ▸ h⟩
  | cons i place ih =>
    obtain ⟨u, hu, hat⟩ := Option.bind_eq_some_iff.1 hat
    obtain ⟨-, hparts⟩ := (decodeAt_eq_ok_iff_of_passes (passes_above hu hp)).1 h
    obtain ⟨u', hu', hdecode⟩ := hparts i u hu
    rw [Json.at?_cons hu']
    exact ih hat (by rwa [← Json.position_cons hu]) hdecode

/-- The values at all other places that have the position of a place can be decoded. -/
def OthersDecode (decoder : Json → Except CoderError Json) (r : Json) (place : List Nat) : Prop :=
  ∀ other u, r.at? other = some u → u.isArray = false →
    r.position other = r.position place → ¬ place <+: other → ∃ x, decoder u = .ok x

/-- **A value at the single position** is decoded, if all others there can be. -/
theorem exists_decode_at? {decoder : Json → Except CoderError Json}
    (hdecoder : coders.decoder? scalar = some decoder) (hat : r.at? place = some w)
    (hothers : OthersDecode decoder r place)
    (hw : decodeAt [(r.position place, scalar)] coders (r.position place) w = .ok v) :
    ∃ r', decode [(r.position place, scalar)] coders r = .ok r' ∧ r'.at? place = some v := by
  have hp : [] ++ r.position place = r.position place := List.nil_append _
  have hsucceeds : ∃ r', decode [(r.position place, scalar)] coders r = .ok r' := by
    refine (exists_decode_iff r).mpr fun other u found hhit => ?_
    by_cases hbelow : place <+: other
    · obtain ⟨below, rfl⟩ := hbelow
      obtain ⟨x, hx, -⟩ :=
        ((decodeAt_eq_ok_iff w).1 hw).hits below u found ((hit_append hat hp below).1 hhit)
      exact ⟨x, hx⟩
    · obtain ⟨here, notArray, registered⟩ := hhit.finds
      rw [decoderAt?_single, hdecoder, List.nil_append] at registered
      split at registered
      · rename_i hposition
        obtain rfl := Option.some.inj registered
        exact hothers other u here notArray hposition.symm hbelow
      · cases registered
  obtain ⟨r', hr'⟩ := hsucceeds
  obtain ⟨x, hx, hdecode⟩ := at?_of_decodeAt hat hp hr'
  obtain rfl := Except.ok.inj (hw.symm.trans hdecode)
  exact ⟨r', hr', hx⟩

end ScalarPaths

/-! ### A response with a single value -/

namespace Json

/-- A value under names, in objects that have no other members. -/
def wrapped : List String → Json → Json
  | [], w => w
  | name :: names, w => object [(name, wrapped names w)]

theorem at?_wrapped (names : List String) (w : Json) :
    (wrapped names w).at? (List.replicate names.length 0) = some w := by
  induction names with
  | nil => rfl
  | cons name names ih => exact ih

theorem position_wrapped_cons (name : String) (names : List String) (w : Json)
    (place : List Nat) : (wrapped (name :: names) w).position (0 :: place) =
      Key.purify name :: (wrapped names w).position place := by
  simp [wrapped, position, enter, nameOf?, part?]

theorem position_wrapped (names : List String) (w : Json) :
    (wrapped names w).position (List.replicate names.length 0) = names.map Key.purify := by
  induction names with
  | nil => rfl
  | cons name names ih =>
    rw [List.length_cons, List.replicate_succ, position_wrapped_cons, ih, List.map_cons]

/-- All places but those at and below the value have shorter positions. -/
theorem length_position_wrapped_lt {names : List String} {w u : Json} {other : List Nat}
    (h : (wrapped names w).at? other = some u)
    (hother : ¬ List.replicate names.length 0 <+: other) :
    ((wrapped names w).position other).length < names.length := by
  induction names generalizing other with
  | nil => exact absurd List.nil_prefix hother
  | cons name names ih =>
    cases other with
    | nil => exact Nat.succ_pos _
    | cons i other =>
      cases i with
      | zero =>
        rw [List.length_cons, List.replicate_succ, List.cons_prefix_cons, not_and] at hother
        rw [position_wrapped_cons, List.length_cons, List.length_cons]
        exact Nat.succ_lt_succ (ih h (hother rfl))
      | succ i => simp [wrapped, at?, part?] at h

end Json

/-- In a response with a single value nothing else stands at its position. -/
theorem ScalarPaths.othersDecode_wrapped (decoder : Json → Except CoderError Json)
    (names : List String) (w : Json) :
    OthersDecode decoder (Json.wrapped names w) (List.replicate names.length 0) := by
  intro other u hother _ hposition hbelow
  have hlength := Json.length_position_wrapped_lt hother hbelow
  rw [hposition, Json.position_wrapped, List.length_map] at hlength
  exact absurd hlength (Nat.lt_irrefl _)

end FieldQuery
