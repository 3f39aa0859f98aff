/-
**Where decoding strikes.**

Decoding walks through all of a document and rebuilds it on the way, but what it is meant to change
are single values.  A place is hit if the value there is no array, a scalar with a decoder is
registered for its position, and no place above it is hit already.  Paths may extend each other, so
a hit can have registered paths below it; these are not looked at, neither in the value that was
there nor in what the decoder made of it.

Here decoding is described by its hits alone.  It succeeds if every decoder does at its hit.  Then
the hits have the values that the decoders gave, and all other nodes are what they were.  It fails
with the first hit, in the order of the document, whose decoder does.  Either description fits one
outcome only, so nothing else is left to say.

Main definitions:

* `Json.nameOf?`, `Json.position` — the names on the way to a place, and its position;
* `Json.SameNode` — two documents agree but for what is below them;
* `ScalarPaths.Finds`, `ScalarPaths.Hit` — a value with a decoder, and a hit;
* `ScalarPaths.Decoded` — what a document is with its hits decoded;
* `ScalarPaths.FailsFirst` — the failure at the first hit that cannot be decoded.

Main results:

* `ScalarPaths.hit_iff` — no place above a hit has a value with a decoder;
* `ScalarPaths.hit_cons` — the hits of a part are the hits of the whole that lie in it;
* `ScalarPaths.decodeAt_eq_ok_iff`, `ScalarPaths.decodeAt_eq_error_iff` — success and failure;
* `ScalarPaths.exists_decode_iff` — what success depends on;
* `ScalarPaths.decode_changes_hits` — **decoding changes the hits** and fails at them.
-/

import FieldQuery.Proofs.Query.Value
import FieldQuery.Response.Decode
import FieldQuery.Scalar.Stock
import Mathlib.Data.List.Lex

set_option autoImplicit false

namespace FieldQuery

/-! ### Going through a list -/

section Lists

variable {ε α β : Type} {f : α → Except ε β}

theorem map_eq_error_iff {g : α → β} {x : Except ε α} {e : ε} :
    x.map g = .error e ↔ x = .error e := by
  cases x <;> simp [Except.map]

theorem map_eq_ok_iff {g : α → β} {x : Except ε α} {y : β} :
    x.map g = .ok y ↔ ∃ a, y = g a ∧ x = .ok a := by
  cases x <;> simp [Except.map, eq_comm]

/-- Going through a list succeeds if it does for every element. -/
theorem mapM_eq_ok_iff : ∀ {as : List α} {bs : List β}, as.mapM f = .ok bs ↔
    as.length = bs.length ∧
      ∀ (i : Nat) (a : α), as[i]? = some a → ∃ b, bs[i]? = some b ∧ f a = .ok b
  | [], bs => by cases bs <;> simp [pure, Except.pure]
  | a :: as, bs => by
    have hcons : (a :: as).mapM f = .ok bs ↔
        ∃ b bs', bs = b :: bs' ∧ f a = .ok b ∧ as.mapM f = .ok bs' := by
      rw [List.mapM_cons]
      cases f a with
      | error e => simp [bind, Except.bind]
      | ok b => cases as.mapM f <;> simp [bind, Except.bind, pure, Except.pure, eq_comm]
    rw [hcons]
    constructor
    · rintro ⟨b, bs', rfl, hb, hbs⟩
      obtain ⟨hlength, helements⟩ := mapM_eq_ok_iff.mp hbs
      refine ⟨by simp [hlength], fun i x hx => ?_⟩
      cases i with
      | zero =>
        obtain rfl := Option.some.inj hx
        exact ⟨b, rfl, hb⟩
      | succ i => exact helements i x hx
    · rintro ⟨hlength, helements⟩
      cases bs with
      | nil => cases hlength
      | cons b bs' =>
        obtain ⟨b', hb', hb⟩ := helements 0 a rfl
        obtain rfl := Option.some.inj hb'
        refine ⟨b, bs', rfl, hb, mapM_eq_ok_iff.mpr ⟨Nat.succ.inj hlength, fun i x hx => ?_⟩⟩
        exact helements (i + 1) x hx

/-- Going through a list fails with the first element that fails. -/
theorem exists_of_mapM_eq_error {e : ε} : ∀ {as : List α}, as.mapM f = .error e →
    ∃ i a, as[i]? = some a ∧ f a = .error e ∧
      ∀ (j : Nat) (b : α), j < i → as[j]? = some b → ∃ x, f b = .ok x
  | [], h => by cases h
  | a :: as, h => by
    rw [List.mapM_cons] at h
    cases ha : f a with
    | error e' =>
      rw [ha] at h
      obtain rfl : e' = e := by simpa [bind, Except.bind] using h
      exact ⟨0, a, rfl, ha, fun j b hj => absurd hj (Nat.not_lt_zero j)⟩
    | ok x =>
      have has : as.mapM f = .error e := by
        rw [ha] at h
        cases hx : as.mapM f with
        | ok bs => simp [hx, bind, Except.bind, pure, Except.pure] at h
        | error e' => simpa [hx, bind, Except.bind] using h
      obtain ⟨i, b, hb, hfails, hbefore⟩ := exists_of_mapM_eq_error has
      refine ⟨i + 1, b, hb, hfails, fun j c hj hc => ?_⟩
      cases j with
      | zero =>
        obtain rfl := Option.some.inj hc
        exact ⟨x, ha⟩
      | succ j => exact hbefore j c (Nat.lt_of_succ_lt_succ hj) hc

end Lists

/-! ### Names on the way to a place -/

namespace Json

/-- The name under which a part of a document is found; an element of an array has none. -/
def nameOf? : Json → Nat → Option String
  | object members, i => (members[i]?).map Prod.fst
  | _, _ => none

/-- The position one part further. -/
def enter (base : ResponsePath) (v : Json) (i : Nat) : ResponsePath :=
  base ++ ((v.nameOf? i).map Key.purify).toList

/-- The position of a place: the purified names on the way to it. -/
def position : Json → List Nat → ResponsePath
  | _, [] => []
  | v, i :: place => v.enter [] i ++ ((v.part? i).map fun w => w.position place).getD []

/-- Two documents agree but for what is below them: arrays have as many elements, objects the same
names in the same order, and other values are equal. -/
def SameNode : Json → Json → Prop
  | array vs, array ws => vs.length = ws.length
  | object es, object fs => Entries.keys es = Entries.keys fs
  | v, w => v = w

theorem sameNode_object {es fs : List (String × Json)} :
    (object es).SameNode (object fs) ↔ es.length = fs.length ∧
      ∀ (i : Nat) (a b : String × Json), es[i]? = some a → fs[i]? = some b → a.1 = b.1 := by
  change es.map Prod.fst = fs.map Prod.fst ↔ _
  constructor
  · intro h
    refine ⟨by simpa using congrArg List.length h, fun i a b ha hb => ?_⟩
    have hi : (es.map Prod.fst)[i]? = (fs.map Prod.fst)[i]? := by rw [h]
    simpa [ha, hb] using hi
  · rintro ⟨hlength, hnames⟩
    refine List.ext_getElem (by simpa using hlength) fun i hi hi' => ?_
    rw [List.getElem_map, List.getElem_map]
    exact hnames i _ _ (List.getElem?_eq_getElem _) (List.getElem?_eq_getElem _)

theorem SameNode.part? {v r u : Json} {i : Nat} (h : v.SameNode r) (hu : v.part? i = some u) :
    ∃ x, r.part? i = some x := by
  cases v with
  | array vs =>
    cases r with
    | array ws =>
      have hi : i < ws.length := h ▸ (List.getElem?_eq_some_iff.mp hu).1
      exact ⟨ws[i], List.getElem?_eq_getElem hi⟩
    | _ => cases h
  | object es =>
    cases r with
    | object fs =>
      obtain ⟨e, he, -⟩ := Option.map_eq_some_iff.mp hu
      have hi : i < fs.length := (sameNode_object.mp h).1 ▸ (List.getElem?_eq_some_iff.mp he).1
      exact ⟨fs[i].2, by simp [Json.part?, hi]⟩
    | _ => cases h
  | _ => cases hu

theorem enter_array (base : ResponsePath) (items : List Json) (i : Nat) :
    enter base (array items) i = base := by
  simp [enter, nameOf?]

theorem enter_object {members : List (String × Json)} {i : Nat} {k : String} {w : Json}
    (h : members[i]? = some (k, w)) (base : ResponsePath) :
    enter base (object members) i = base.child k := by
  simp [enter, nameOf?, h, ResponsePath.child]

theorem position_cons {v w : Json} {i : Nat} (h : v.part? i = some w) (base : ResponsePath)
    (place : List Nat) :
    base ++ v.position (i :: place) = v.enter base i ++ w.position place := by
  rw [position, h, enter, enter, List.nil_append, List.append_assoc]
  rfl

theorem at?_cons {v w : Json} {i : Nat} (h : v.part? i = some w) (place : List Nat) :
    v.at? (i :: place) = w.at? place := by
  rw [at?, h, Option.bind_some]

end Json

namespace ScalarPaths

variable {paths : ScalarPaths} {coders : Coders} {base : ResponsePath} {v w : Json}
  {found : String × (Json → Except CoderError Json)}

/-! ### Hits -/

/-- At a place of a document that stands at the position `base` there is a value other than an
array, and a scalar with a decoder is registered for the position of the place. -/
structure Finds (paths : ScalarPaths) (coders : Coders) (base : ResponsePath) (v : Json)
    (place : List Nat) (w : Json) (found : String × (Json → Except CoderError Json)) : Prop where
  here : v.at? place = some w
  notArray : w.isArray = false
  registered : paths.decoderAt? coders (base ++ v.position place) = some found

/-- A value with a decoder is hit unless a place above it is. -/
def Hit (paths : ScalarPaths) (coders : Coders) (base : ResponsePath) (v : Json)
    (place : List Nat) (w : Json) (found : String × (Json → Except CoderError Json)) : Prop :=
  Finds paths coders base v place w found ∧
    ∀ above w' found', above <+: place → above ≠ place →
      ¬ Hit paths coders base v above w' found'
termination_by place.length
decreasing_by
  rename_i hpre hne
  exact Nat.lt_of_le_of_ne hpre.length_le fun h => hne (hpre.eq_of_length h)

theorem Hit.finds {place : List Nat} (h : Hit paths coders base v place w found) :
    Finds paths coders base v place w found := by
  rw [Hit] at h
  exact h.1

/-- A value with a decoder is hit itself, or a place above it is. -/
theorem Finds.exists_hit {place : List Nat} (h : Finds paths coders base v place w found) :
    ∃ above w' found', above <+: place ∧ Hit paths coders base v above w' found' := by
  by_cases hhit : Hit paths coders base v place w found
  · exact ⟨place, w, found, List.prefix_rfl, hhit⟩
  · rw [Hit, not_and] at hhit
    have hnot := hhit h
    push Not at hnot
    obtain ⟨above, w', found', hpre, -, habove⟩ := hnot
    exact ⟨above, w', found', hpre, habove⟩

/-- No place above a hit has a value with a decoder. -/
theorem hit_iff {place : List Nat} :
    Hit paths coders base v place w found ↔ Finds paths coders base v place w found ∧
      ∀ above w' found', above <+: place → above ≠ place →
        ¬ Finds paths coders base v above w' found' := by
  constructor
  · intro h
    refine ⟨h.finds, fun above w' found' hpre hne habove => ?_⟩
    obtain ⟨top, u, other, htop, hhit⟩ := habove.exists_hit
    rw [Hit] at h
    refine h.2 top u other (htop.trans hpre) (fun heq => hne ?_) hhit
    exact hpre.eq_of_length_le (heq ▸ htop.length_le)
  · rintro ⟨h, hnone⟩
    rw [Hit]
    exact ⟨h, fun above w' found' hpre hne hhit => hnone above w' found' hpre hne hhit.finds⟩

/-- What is found at a place is one value with one decoder. -/
theorem Finds.unique {place : List Nat} {w' : Json}
    {found' : String × (Json → Except CoderError Json)}
    (h : Finds paths coders base v place w found)
    (h' : Finds paths coders base v place w' found') : w = w' ∧ found = found' :=
  ⟨Option.some.inj (h.here.symm.trans h'.here),
    Option.some.inj (h.registered.symm.trans h'.registered)⟩

/-! ### Hits of a whole and of its parts -/

/-- No decoder is registered for the value itself. -/
def Passes (paths : ScalarPaths) (coders : Coders) (base : ResponsePath) (v : Json) : Prop :=
  v.isArray = true ∨ paths.decoderAt? coders base = none

theorem finds_nil : Finds paths coders base v [] w found ↔
    v = w ∧ v.isArray = false ∧ paths.decoderAt? coders base = some found := by
  constructor
  · rintro ⟨here, notArray, registered⟩
    obtain rfl := Option.some.inj here
    exact ⟨rfl, notArray, by simpa [Json.position] using registered⟩
  · rintro ⟨rfl, notArray, registered⟩
    exact ⟨rfl, notArray, by simpa [Json.position] using registered⟩

theorem Passes.not_finds (h : Passes paths coders base v) :
    ¬ Finds paths coders base v [] w found := by
  rw [finds_nil]
  rintro ⟨-, hv, hfound⟩
  rcases h with h | h <;> simp_all

theorem finds_cons {i : Nat} {u : Json} (hu : v.part? i = some u) (place : List Nat) :
    Finds paths coders base v (i :: place) w found ↔
      Finds paths coders (v.enter base i) u place w found := by
  constructor
  · rintro ⟨here, notArray, registered⟩
    rw [Json.at?_cons hu] at here
    rw [Json.position_cons hu] at registered
    exact ⟨here, notArray, registered⟩
  · rintro ⟨here, notArray, registered⟩
    rw [← Json.at?_cons hu] at here
    rw [← Json.position_cons hu] at registered
    exact ⟨here, notArray, registered⟩

theorem hit_nil : Hit paths coders base v [] w found ↔
    v = w ∧ v.isArray = false ∧ paths.decoderAt? coders base = some found := by
  rw [hit_iff, finds_nil, and_iff_left]
  intro above w' found' hpre hne
  exact absurd (List.prefix_nil.mp hpre) hne

/-- Nothing below a hit is hit. -/
theorem Hit.eq_nil {place : List Nat} {w' : Json}
    {found' : String × (Json → Except CoderError Json)}
    (h : Hit paths coders base v place w found)
    (h' : Finds paths coders base v [] w' found') : place = [] := by
  by_contra hne
  exact (hit_iff.mp h).2 [] w' found' List.nil_prefix (Ne.symm hne) h'

/-- The hits of a part are the hits of the whole that lie in it. -/
theorem hit_cons {i : Nat} {u : Json} (hv : Passes paths coders base v) (hu : v.part? i = some u)
    (place : List Nat) :
    Hit paths coders base v (i :: place) w found ↔
      Hit paths coders (v.enter base i) u place w found := by
  rw [hit_iff, hit_iff, finds_cons hu]
  refine and_congr_right fun _ => ⟨fun h above w' found' hpre hne => ?_,
    fun h above w' found' hpre hne => ?_⟩
  · rw [← finds_cons hu]
    exact h (i :: above) w' found' (List.cons_prefix_cons.mpr ⟨rfl, hpre⟩) (by simpa using hne)
  · rcases List.prefix_cons_iff.mp hpre with rfl | ⟨below, rfl, hbelow⟩
    · exact hv.not_finds
    · rw [finds_cons hu]
      exact h below w' found' hbelow (by simpa using hne)

/-! ### Documents with their hits decoded -/

/-- A document `r` is the document `v` with its hits decoded: at the hits it has what the decoders
gave, and all nodes that are neither hit nor below a hit are what they were. -/
structure Decoded (paths : ScalarPaths) (coders : Coders) (base : ResponsePath)
    (v r : Json) : Prop where
  hits : ∀ place w found, Hit paths coders base v place w found →
    ∃ x, found.2 w = .ok x ∧ r.at? place = some x
  rest : ∀ place w, v.at? place = some w →
    (∀ above w' found', above <+: place → ¬ Hit paths coders base v above w' found') →
      ∃ x, r.at? place = some x ∧ w.SameNode x

/-- A failure is that of the first hit, in the order of the document, whose decoder fails. -/
def FailsFirst (paths : ScalarPaths) (coders : Coders) (base : ResponsePath) (v : Json)
    (e : DecodeError) : Prop :=
  ∃ place w found cause, Hit paths coders base v place w found ∧ found.2 w = .error cause ∧
    e = ⟨found.1, base ++ v.position place, cause⟩ ∧
    ∀ earlier w' found', earlier < place → Hit paths coders base v earlier w' found' →
      ∃ x, found'.2 w' = .ok x

variable {r : Json} {e : DecodeError}

/-- A value with a decoder has what its decoder gave. -/
theorem decoded_of_finds (h : Finds paths coders base v [] v found) :
    Decoded paths coders base v r ↔ found.2 v = .ok r := by
  have hhit : Hit paths coders base v [] v found := hit_nil.mpr (finds_nil.mp h)
  constructor
  · rintro ⟨hits, -⟩
    obtain ⟨x, hx, hr⟩ := hits [] v found hhit
    obtain rfl := Option.some.inj hr
    exact hx
  · intro hr
    refine ⟨fun place w found' hw => ?_, fun place w _ hnone => ?_⟩
    · obtain rfl := hw.eq_nil h
      obtain ⟨rfl, rfl⟩ := h.unique hw.finds
      exact ⟨r, hr, rfl⟩
    · exact absurd hhit (hnone [] v found List.nil_prefix)

theorem Passes.not_hit (hv : Passes paths coders base v) : ¬ Hit paths coders base v [] w found :=
  fun h => hv.not_finds h.finds

/-- A value without a decoder stays the same node, with its parts decoded. -/
theorem decoded_of_passes (hv : Passes paths coders base v) :
    Decoded paths coders base v r ↔ v.SameNode r ∧ ∀ i u, v.part? i = some u →
      ∃ x, r.part? i = some x ∧ Decoded paths coders (v.enter base i) u x := by
  constructor
  · rintro ⟨hits, rest⟩
    obtain ⟨r', hr', hnode⟩ := rest [] v rfl fun above w' found' hpre => by
      rw [List.prefix_nil.mp hpre]
      exact hv.not_hit
    obtain rfl := Option.some.inj hr'
    refine ⟨hnode, fun i u hu => ?_⟩
    obtain ⟨x, hx⟩ := hnode.part? hu
    refine ⟨x, hx, fun place w found hw => ?_, fun place w hw hnone => ?_⟩
    · rw [← Json.at?_cons hx]
      exact hits (i :: place) w found ((hit_cons hv hu place).mpr hw)
    · rw [← Json.at?_cons hx]
      refine rest (i :: place) w (by rwa [Json.at?_cons hu]) fun above w' found' hpre => ?_
      rcases List.prefix_cons_iff.mp hpre with rfl | ⟨below, rfl, hbelow⟩
      · exact hv.not_hit
      · rw [hit_cons hv hu]
        exact hnone below w' found' hbelow
  · rintro ⟨hnode, hparts⟩
    refine ⟨fun place w found hw => ?_, fun place w hw hnone => ?_⟩
    · cases place with
      | nil => exact absurd hw hv.not_hit
      | cons i place =>
        obtain ⟨u, hu, -⟩ := Option.bind_eq_some_iff.mp hw.finds.here
        obtain ⟨x, hx, hdecoded⟩ := hparts i u hu
        rw [Json.at?_cons hx]
        exact hdecoded.hits place w found ((hit_cons hv hu place).mp hw)
    · cases place with
      | nil =>
        obtain rfl := Option.some.inj hw
        exact ⟨r, rfl, hnode⟩
      | cons i place =>
        obtain ⟨u, hu, hat⟩ := Option.bind_eq_some_iff.mp hw
        obtain ⟨x, hx, hdecoded⟩ := hparts i u hu
        rw [Json.at?_cons hx]
        refine hdecoded.rest place w hat fun above w' found' hpre hhit => ?_
        exact hnone (i :: above) w' found' (List.cons_prefix_cons.mpr ⟨rfl, hpre⟩)
          ((hit_cons hv hu above).mpr hhit)

/-! ### One step of decoding -/

theorem decodeAt_of_finds (h : Finds paths coders base v [] v found) :
    decodeAt paths coders base v = decodeWith base found v := by
  obtain ⟨-, harray, hfound⟩ := finds_nil.mp h
  cases v with
  | array items => cases harray
  | _ => simp [decodeAt, hfound]

theorem decodeItems_eq_mapM (vs : List Json) :
    decodeItems paths coders base vs = vs.mapM (decodeAt paths coders base) := by
  induction vs with
  | nil => rfl
  | cons v vs ih => rw [decodeItems, List.mapM_cons, ih]

theorem decodeMembers_eq_mapM (es : List (String × Json)) :
    decodeMembers paths coders base es =
      es.mapM fun a => (decodeAt paths coders (base.child a.1) a.2).map (a.1, ·) := by
  induction es with
  | nil => rfl
  | cons a es ih =>
    rw [decodeMembers, List.mapM_cons, ih]
    cases decodeAt paths coders (base.child a.1) a.2 <;> rfl

theorem decodeAt_array (items : List Json) : decodeAt paths coders base (.array items) =
    (items.mapM (decodeAt paths coders base)).map Json.array := by
  rw [decodeAt, decodeItems_eq_mapM]
  cases items.mapM (decodeAt paths coders base) <;> rfl

theorem decodeAt_object (h : paths.decoderAt? coders base = none)
    (members : List (String × Json)) : decodeAt paths coders base (.object members) =
      (members.mapM fun a => (decodeAt paths coders (base.child a.1) a.2).map (a.1, ·)).map
        Json.object := by
  rw [decodeAt, h, ← decodeMembers_eq_mapM]
  cases decodeMembers paths coders base members <;> rfl

/-- A value without a decoder stays the same node, and each of its parts is decoded. -/
theorem decodeAt_eq_ok_iff_of_passes (hv : Passes paths coders base v) :
    decodeAt paths coders base v = .ok r ↔ v.SameNode r ∧ ∀ i u, v.part? i = some u →
      ∃ x, r.part? i = some x ∧ decodeAt paths coders (v.enter base i) u = .ok x := by
  cases v with
  | array items =>
    rw [decodeAt_array, map_eq_ok_iff]
    simp only [Json.enter_array, mapM_eq_ok_iff]
    constructor
    · rintro ⟨rs, rfl, hlength, hparts⟩
      exact ⟨hlength, hparts⟩
    · rintro ⟨hnode, hparts⟩
      cases r with
      | array rs => exact ⟨rs, rfl, hnode, hparts⟩
      | _ => cases hnode
  | object members =>
    rw [decodeAt_object (hv.resolve_left Bool.false_ne_true), map_eq_ok_iff]
    simp only [mapM_eq_ok_iff, map_eq_ok_iff]
    constructor
    · rintro ⟨rs, rfl, hlength, hparts⟩
      refine ⟨Json.sameNode_object.mpr ⟨hlength, fun i a b ha hb => ?_⟩, fun i u hu => ?_⟩
      · obtain ⟨b', hb', x, hpair, -⟩ := hparts i a ha
        obtain rfl := Option.some.inj (hb.symm.trans hb')
        rw [hpair]
      · obtain ⟨a, ha, rfl⟩ := Option.map_eq_some_iff.mp hu
        obtain ⟨b, hb, x, rfl, hx⟩ := hparts i a ha
        rw [Json.enter_object ha]
        exact ⟨x, by simp [Json.part?, hb], hx⟩
    · rintro ⟨hnode, hparts⟩
      cases r with
      | object rs =>
        obtain ⟨hlength, hnames⟩ := Json.sameNode_object.mp hnode
        refine ⟨rs, rfl, hlength, fun i a ha => ?_⟩
        obtain ⟨x, hx, hdecodes⟩ := hparts i a.2 (by simp [Json.part?, ha])
        obtain ⟨b, hb, rfl⟩ := Option.map_eq_some_iff.mp hx
        rw [Json.enter_object ha] at hdecodes
        exact ⟨b, hb, b.2, by rw [hnames i a b ha hb], hdecodes⟩
      | _ => cases hnode
  | _ =>
    have hnone := hv.resolve_left Bool.false_ne_true
    simp [decodeAt, hnone, Json.SameNode, Json.part?]

/-- A value without a decoder fails with the first of its parts that fails. -/
theorem exists_of_decodeAt_eq_error (hv : Passes paths coders base v)
    (h : decodeAt paths coders base v = .error e) :
    ∃ i u, v.part? i = some u ∧ decodeAt paths coders (v.enter base i) u = .error e ∧
      ∀ j u', j < i → v.part? j = some u' →
        ∃ x, decodeAt paths coders (v.enter base j) u' = .ok x := by
  cases v with
  | array items =>
    rw [decodeAt_array, map_eq_error_iff] at h
    simp only [Json.enter_array]
    exact exists_of_mapM_eq_error h
  | object members =>
    rw [decodeAt_object (hv.resolve_left Bool.false_ne_true), map_eq_error_iff] at h
    obtain ⟨i, a, ha, hfails, hbefore⟩ := exists_of_mapM_eq_error h
    refine ⟨i, a.2, by simp [Json.part?, ha], ?_, fun j u' hj hu' => ?_⟩
    · rw [Json.enter_object ha]
      exact map_eq_error_iff.mp hfails
    · obtain ⟨b, hb, rfl⟩ := Option.map_eq_some_iff.mp hu'
      obtain ⟨_, hx⟩ := hbefore j b hj hb
      obtain ⟨x, -, hx⟩ := map_eq_ok_iff.mp hx
      rw [Json.enter_object hb]
      exact ⟨x, hx⟩
  | _ =>
    have hnone := hv.resolve_left Bool.false_ne_true
    simp [decodeAt, hnone] at h

/-! ### All of decoding -/

/-- A value has a decoder of its own or passes. -/
theorem finds_or_passes (paths : ScalarPaths) (coders : Coders) (base : ResponsePath) (v : Json) :
    (∃ found, Finds paths coders base v [] v found) ∨ Passes paths coders base v := by
  cases harray : v.isArray with
  | true => exact .inr (.inl harray)
  | false =>
    cases hfound : paths.decoderAt? coders base with
    | none => exact .inr (.inr hfound)
    | some found => exact .inl ⟨found, finds_nil.mpr ⟨rfl, harray, hfound⟩⟩

/-- **Decoding gives** the document with its hits decoded, and nothing else. -/
theorem decodeAt_eq_ok_iff (v : Json) {base : ResponsePath} {r : Json} :
    decodeAt paths coders base v = .ok r ↔ Decoded paths coders base v r := by
  rcases finds_or_passes paths coders base v with ⟨found, hfound⟩ | hv
  · rw [decodeAt_of_finds hfound, decoded_of_finds hfound, decodeWith]
    cases found.2 v <;> simp [Except.mapError]
  · rw [decodeAt_eq_ok_iff_of_passes hv, decoded_of_passes hv]
    refine and_congr_right fun _ => forall_congr' fun i => forall_congr' fun u =>
      forall_congr' fun hu => ?_
    have hlt := Json.sizeOf_lt_of_part? hu
    simp only [decodeAt_eq_ok_iff u]
termination_by sizeOf v

/-- What a part fails with, the whole fails with, unless an earlier part fails. -/
theorem FailsFirst.of_part (hv : Passes paths coders base v) {i : Nat} {u : Json}
    (hu : v.part? i = some u) (hfails : FailsFirst paths coders (v.enter base i) u e)
    (hbefore : ∀ j u', j < i → v.part? j = some u' →
      ∃ x, Decoded paths coders (v.enter base j) u' x) : FailsFirst paths coders base v e := by
  obtain ⟨place, w, found, cause, hhit, hcause, rfl, hfirst⟩ := hfails
  refine ⟨i :: place, w, found, cause, (hit_cons hv hu place).mpr hhit, hcause, ?_, ?_⟩
  · rw [Json.position_cons hu]
  · intro earlier w' found' hlt hhit'
    cases earlier with
    | nil => exact absurd hhit' hv.not_hit
    | cons j below =>
      obtain ⟨u', hu', -⟩ := Option.bind_eq_some_iff.mp hhit'.finds.here
      rw [hit_cons hv hu'] at hhit'
      rcases List.cons_lt_cons_iff.mp hlt with hj | ⟨rfl, hbelow⟩
      · obtain ⟨x, hx⟩ := hbefore j u' hj hu'
        obtain ⟨y, hy, -⟩ := hx.hits below w' found' hhit'
        exact ⟨y, hy⟩
      · obtain rfl := Option.some.inj (hu'.symm.trans hu)
        exact hfirst below w' found' hbelow hhit'

/-- Decoding fails with the first hit whose decoder fails. -/
theorem failsFirst_of_decodeAt (v : Json) {base : ResponsePath} {e : DecodeError}
    (h : decodeAt paths coders base v = .error e) : FailsFirst paths coders base v e := by
  rcases finds_or_passes paths coders base v with ⟨found, hfound⟩ | hv
  · rw [decodeAt_of_finds hfound, decodeWith] at h
    cases hcause : found.2 v with
    | ok x => simp [hcause, Except.mapError] at h
    | error cause =>
      obtain rfl : ⟨found.1, base, cause⟩ = e := by simpa [hcause, Except.mapError] using h
      refine ⟨[], v, found, cause, hit_nil.mpr (finds_nil.mp hfound), hcause, ?_, ?_⟩
      · rw [Json.position, List.append_nil]
      · exact fun earlier _ _ hlt => absurd hlt (List.not_lt_nil earlier)
  · obtain ⟨i, u, hu, hfails, hbefore⟩ := exists_of_decodeAt_eq_error hv h
    have hlt := Json.sizeOf_lt_of_part? hu
    refine FailsFirst.of_part hv hu (failsFirst_of_decodeAt u hfails) fun j u' hj hu' => ?_
    obtain ⟨x, hx⟩ := hbefore j u' hj hu'
    exact ⟨x, (decodeAt_eq_ok_iff u').mp hx⟩
termination_by sizeOf v

theorem FailsFirst.not_decoded (h : FailsFirst paths coders base v e) :
    ¬ Decoded paths coders base v r := by
  obtain ⟨place, w, found, cause, hhit, hcause, -⟩ := h
  intro hdecoded
  obtain ⟨x, hx, -⟩ := hdecoded.hits place w found hhit
  cases hcause.symm.trans hx

/-- There is one first hit that fails. -/
theorem FailsFirst.unique {e' : DecodeError} (h : FailsFirst paths coders base v e)
    (h' : FailsFirst paths coders base v e') : e = e' := by
  obtain ⟨place, w, found, cause, hhit, hcause, rfl, hfirst⟩ := h
  obtain ⟨place', w', found', cause', hhit', hcause', rfl, hfirst'⟩ := h'
  rcases lt_trichotomy place place' with hlt | rfl | hlt
  · obtain ⟨x, hx⟩ := hfirst' place w found hlt hhit
    cases hcause.symm.trans hx
  · obtain ⟨rfl, rfl⟩ := hhit.finds.unique hhit'.finds
    obtain rfl := Except.error.inj (hcause.symm.trans hcause')
    rfl
  · obtain ⟨x, hx⟩ := hfirst place' w' found' hlt hhit'
    cases hcause'.symm.trans hx

/-- **Decoding fails** with the first hit that cannot be decoded, and with nothing else. -/
theorem decodeAt_eq_error_iff (v : Json) :
    decodeAt paths coders base v = .error e ↔ FailsFirst paths coders base v e := by
  refine ⟨failsFirst_of_decodeAt v, fun h => ?_⟩
  cases hdecode : decodeAt paths coders base v with
  | ok r => exact absurd ((decodeAt_eq_ok_iff v).mp hdecode) h.not_decoded
  | error e' => rw [h.unique (failsFirst_of_decodeAt v hdecode)]

/-- Decoding succeeds exactly if the decoder of every hit does. -/
theorem exists_decode_iff (v : Json) :
    (∃ r, paths.decode coders v = .ok r) ↔
      ∀ place w found, Hit paths coders [] v place w found → ∃ x, found.2 w = .ok x := by
  constructor
  · rintro ⟨r, hr⟩ place w found hhit
    obtain ⟨x, hx, -⟩ := ((decodeAt_eq_ok_iff v).mp hr).hits place w found hhit
    exact ⟨x, hx⟩
  · intro h
    cases hdecode : paths.decode coders v with
    | ok r => exact ⟨r, rfl⟩
    | error e =>
      obtain ⟨place, w, found, cause, hhit, hcause, -⟩ := (decodeAt_eq_error_iff v).mp hdecode
      obtain ⟨x, hx⟩ := h place w found hhit
      cases hcause.symm.trans hx

/-- **Decoding changes the hits** and fails at them.  It succeeds exactly if the decoder of every
hit does; what it gives is the document with its hits decoded, in which every other node is what it
was; and it fails with the scalar, the position and the error of the first hit, in the order of the
document, whose decoder fails. -/
theorem decode_changes_hits (paths : ScalarPaths) (coders : Coders) (v : Json) :
    ((∃ r, paths.decode coders v = .ok r) ↔
      ∀ place w found, Hit paths coders [] v place w found → ∃ x, found.2 w = .ok x) ∧
    (∀ r, paths.decode coders v = .ok r ↔ Decoded paths coders [] v r) ∧
    ∀ e, paths.decode coders v = .error e ↔ FailsFirst paths coders [] v e :=
  ⟨exists_decode_iff v, fun _ => decodeAt_eq_ok_iff v, fun _ => decodeAt_eq_error_iff v⟩

/-! ### The supplies of tokens -/

/-- The supplies of tokens are numbers that are sent as strings. -/
def supplyPaths : ScalarPaths := [(["token", "supply"], "numeric")]

/-- The codec for such numbers. -/
def supplyCoders : Coders := .ofEntries [("numeric", StockCodec.numericString.coder)]

/-- A position that is not that of a supply has no decoder. -/
theorem decoderAt?_supplyPaths {position : ResponsePath} (h : position ≠ ["token", "supply"]) :
    supplyPaths.decoderAt? supplyCoders position = none := by
  simp [decoderAt?, supplyPaths, get?, Ne.symm h]

/-- Two tokens; the first one has the same string for its name and its supply. -/
def tokens (second : String) : List Json :=
  [.object [("name", .string "7"), ("supply", .string "7")],
    .object [("name", .string "8"), ("supply", .string second)]]

/-- The document of the two tokens. -/
def supplies (second : String) : Json := .object [("token", .array (tokens second))]

theorem passes_supplies (second : String) : Passes supplyPaths supplyCoders [] (supplies second) :=
  .inr (decoderAt?_supplyPaths (by simp))

theorem passes_token (token : Json) : Passes supplyPaths supplyCoders ["token"] token :=
  .inr (decoderAt?_supplyPaths (by simp))

/-- The hits of a token are those of the document that lie in it. -/
theorem hit_in_token {second : String} {i : Nat} {token : Json}
    (h : (tokens second)[i]? = some token) (place : List Nat) :
    Hit supplyPaths supplyCoders [] (supplies second) (0 :: i :: place) w found ↔
      Hit supplyPaths supplyCoders ["token"] token place w found := by
  have hchild : ResponsePath.child [] "token" = ["token"] := rfl
  rw [hit_cons (passes_supplies second) rfl, supplies, Json.enter_object rfl, hchild]
  exact hit_cons (passes_token (.array (tokens second))) h place

/-- The second supply is hit, whatever it is. -/
theorem hit_second_supply (second : String) :
    Hit supplyPaths supplyCoders [] (supplies second) [0, 1, 1] (.string second)
      ("numeric", StockCodec.decodeNumeric) := by
  rw [hit_in_token rfl, hit_cons (passes_token _) rfl, Json.enter_object rfl, hit_nil]
  exact ⟨rfl, rfl, rfl⟩

/-- The first name is not hit, and nothing above it is. -/
theorem not_hit_first_name (second : String) {above : List Nat} (h : above <+: [0, 0, 0]) :
    ¬ Hit supplyPaths supplyCoders [] (supplies second) above w found := by
  have hname : (ResponsePath.child ["token"] "name") = ["token", "name"] := rfl
  simp only [List.prefix_cons_iff, List.prefix_nil] at h
  rcases h with rfl | ⟨_, rfl, rfl | ⟨_, rfl, rfl | ⟨_, rfl, rfl⟩⟩⟩
  · exact (passes_supplies second).not_hit
  · rw [hit_cons (passes_supplies second) rfl]
    exact Passes.not_hit (.inl rfl)
  · rw [hit_in_token rfl]
    exact (passes_token _).not_hit
  · rw [hit_in_token rfl, hit_cons (passes_token _) rfl, Json.enter_object rfl, hname]
    exact Passes.not_hit (.inr (decoderAt?_supplyPaths (by simp)))

/-- The second supply is hit.  With a number there it is decoded, and a name that is spelt as a number
is left alone; with a word there decoding fails, and the failure is the one at this hit. -/
theorem decode_changes_hits_supply :
    (∀ second, Hit supplyPaths supplyCoders [] (supplies second) [0, 1, 1] (.string second)
      ("numeric", StockCodec.decodeNumeric)) ∧
    (∃ r, supplyPaths.decode supplyCoders (supplies "8") = .ok r ∧
      r.at? [0, 1, 1] = some (.number (.whole ⟨8, by decide, by decide⟩)) ∧
      r.at? [0, 0, 0] = some (.string "7")) ∧
    (¬ ∃ r, supplyPaths.decode supplyCoders (supplies "many") = .ok r) ∧
    FailsFirst supplyPaths supplyCoders [] (supplies "many")
      ⟨"numeric", ["token", "supply"], .invalidValue "many"⟩ := by
  obtain ⟨-, hdecoded, -⟩ := decode_changes_hits supplyPaths supplyCoders (supplies "8")
  obtain ⟨hdecodes, -, hfails⟩ := decode_changes_hits supplyPaths supplyCoders (supplies "many")
  have height : StockCodec.decodeNumeric (.string "8") =
      .ok (.number (.whole ⟨8, by decide, by decide⟩)) := by
    rfl
  have hmany : StockCodec.decodeNumeric (.string "many") = .error (.invalidValue "many") := by
    rfl
  have hrun : ∃ r, supplyPaths.decode supplyCoders (supplies "8") = .ok r := ⟨_, rfl⟩
  have hstop : supplyPaths.decode supplyCoders (supplies "many") =
      .error ⟨"numeric", ["token", "supply"], .invalidValue "many"⟩ := by
    rfl
  refine ⟨hit_second_supply, ?_, ?_, (hfails _).mp hstop⟩
  · obtain ⟨r, hr⟩ := hrun
    obtain ⟨hhits, hrest⟩ := (hdecoded r).mp hr
    obtain ⟨x, hx, hat⟩ := hhits _ _ _ (hit_second_supply "8")
    obtain rfl := Except.ok.inj (height.symm.trans hx)
    obtain ⟨y, hy, hsame⟩ := hrest [0, 0, 0] (.string "7") rfl
      fun _ _ _ habove => not_hit_first_name "8" habove
    obtain rfl : Json.string "7" = y := hsame
    exact ⟨r, hr, hat, hy⟩
  · intro hsuccess
    obtain ⟨x, hx⟩ := hdecodes.mp hsuccess _ _ _ (hit_second_supply "many")
    cases hmany.symm.trans hx

end ScalarPaths

end FieldQuery
