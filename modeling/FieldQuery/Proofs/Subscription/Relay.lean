/-
**Two handles joined by a relay.**

Subscribing puts two handles between the caller and the carrier.  The carrier tells the outer
handle what arrives; the caller listens to the inner one and may close it.  The relay between them
runs errands: a notice told to the outer handle is passed on to the inner one, and a request to
close the inner handle is passed out.  An errand is always the next thing that its party does.

Whatever the parties do, in whatever order they have their turns, the two handles stay joined.
This module says what a turn can do to them, and what every turn keeps.

Main definitions:

* `Command.IsFeed`, `Command.IsUse` — what a carrier and a caller may do;
* `Relay` — two handles, how messages are decoded between them, and what closing them does;
* `Errand`, `Relay.errand?` — what a party does for the relay next;
* `Relay.Move` — what one command does to two joined handles;
* `Relay.Joined`, `Relay.Tied` — handles joined by a relay, with the parties that deal with them.

Main results:

* `Relay.reactions_of_listeners` — a relay answers a notice by passing it on;
* `Relay.Joined.exists_move` — **a turn is a move of the two handles**;
* `Relay.Joined.turn` — **handles that are joined stay joined**.
-/

import FieldQuery.Client.Subscribe
import FieldQuery.Proofs.Subscription.Parties

set_option autoImplicit false

namespace FieldQuery

variable {ε : Type}

/-! ### What parties may do -/

/-- What a carrier does to the handle that it was given: it tells it notices. -/
inductive Command.IsFeed (outer : Nat) : Command ε → Prop
  | write (entry : ε) : IsFeed outer (.write entry)
  | notify (n : Notice) : IsFeed outer (.notify outer n)

/-- What a caller does to the handle that it got: it listens, with listeners that do no more than
a caller does, and it closes. -/
inductive Command.IsUse (inner : Nat) : Command ε → Prop
  | write (entry : ε) : IsUse inner (.write entry)
  | listen (kind : Notice.Kind) (react : Reaction ε) (uses : ∀ n, ∀ c ∈ react n, IsUse inner c) :
    IsUse inner (.listen inner kind react)
  | close : IsUse inner (.close inner)

/-! ### Relays -/

/-- What joins two handles: their numbers, how messages are decoded on the way in, and what is left
to be done, by the carrier's wish, when the outer one is closed. -/
structure Relay (ε : Type) where
  outer : Nat
  inner : Nat
  decode : Json → Except DecodeError Json
  closer : List (Command ε)
  apart : outer ≠ inner
  feeds : ∀ c ∈ closer, c.IsFeed outer

theorem Notice.decodedBy_eq_closed (decode : Json → Except DecodeError Json) {n : Notice} :
    n.decodedBy decode = .closed ↔ n = .closed := by
  cases n with
  | message v => cases h : decode v <;> simp [decodedBy, h]
  | _ => simp [decodedBy]

/-! ### Errands -/

/-- What is done for a relay: the outer handle is closed, or the inner one is told something. -/
inductive Errand where
  | close
  | tell (n : Notice)
deriving DecidableEq

namespace Relay

variable {r : Relay ε}

/-- What a carrier or a caller does. -/
def IsCall (r : Relay ε) (c : Command ε) : Prop := c.IsFeed r.outer ∨ c.IsUse r.inner

/-- The errand among commands that wait, which is the first of them if there is one. -/
def errand? (r : Relay ε) : List (Command ε) → Option Errand
  | .close j :: _ => if j = r.outer then some .close else none
  | .notify j n :: _ => if j = r.inner then some (.tell n) else none
  | _ => none

theorem errand?_of_calls {cs : List (Command ε)} (h : ∀ c ∈ cs, r.IsCall c) :
    r.errand? cs = none := by
  cases cs with
  | nil => rfl
  | cons c rest =>
    rcases h c List.mem_cons_self with hf | hu
    · cases hf with
      | write entry => rfl
      | notify n => simp [errand?, r.apart]
    · cases hu with
      | write entry => rfl
      | listen kind react uses => rfl
      | close => simp [errand?, r.apart.symm]

theorem errand?_append (more : List (Command ε)) {rest : List (Command ε)}
    (h : ∀ c ∈ rest, r.IsCall c) : r.errand? (more ++ rest) = r.errand? more := by
  cases more with
  | nil => exact errand?_of_calls h
  | cons c more => cases c <;> rfl

/-- Commands that wait in order: errands come first. -/
def Orderly (r : Relay ε) (cs : List (Command ε)) : Prop :=
  (∀ c ∈ cs, r.IsCall c) ∨
    ∃ c rest, cs = c :: rest ∧ (r.errand? [c]).isSome = true ∧ ∀ c ∈ rest, r.IsCall c

theorem Orderly.tail {c : Command ε} {rest : List (Command ε)} (h : Orderly r (c :: rest)) :
    ∀ c ∈ rest, r.IsCall c := by
  rcases h with h | ⟨_, _, heq, -, h⟩
  · exact fun d hd => h d (List.mem_cons_of_mem _ hd)
  · cases heq
    exact h

theorem Orderly.append {more rest : List (Command ε)}
    (hm : (∀ c ∈ more, r.IsCall c) ∨ ∃ c, more = [c] ∧ (r.errand? [c]).isSome = true)
    (hr : ∀ c ∈ rest, r.IsCall c) : Orderly r (more ++ rest) := by
  rcases hm with hm | ⟨c, rfl, hc⟩
  · exact .inl fun c hc => (List.mem_append.mp hc).elim (hm c) (hr c)
  · exact .inr ⟨c, rest, rfl, hc, hr⟩

/-! ### Moves -/

/-- The listeners of a relay. -/
def listeners (r : Relay ε) : List (Notice.Kind × Reaction ε) :=
  Notice.Kind.all.map fun kind => (kind, fun n => [.notify r.inner (n.decodedBy r.decode)])

/-- A relay answers a notice by passing it on. -/
theorem reactions_of_listeners {h : Handle ε} (hl : h.listeners = r.listeners) (n : Notice) :
    h.reactions n = [.notify r.inner (n.decodedBy r.decode)] := by
  cases n <;> simp [Handle.reactions, hl, listeners, Notice.Kind.all, Notice.kind]

/-- What one command does to two joined handles: what becomes of the outer one and of the inner
one, and what follows. -/
inductive Move (r : Relay ε) (o i : Handle ε) :
    Command ε → Handle ε → Handle ε → List (Command ε) → Prop
  | write (entry : ε) : Move r o i (.write entry) o i []
  | listen (kind : Notice.Kind) (react : Reaction ε)
      (uses : ∀ n, ∀ c ∈ react n, c.IsUse r.inner) :
    Move r o i (.listen r.inner kind react) o (i.listen kind react) []
  | closeInner : Move r o i (.close r.inner) o i.close.1 i.close.2
  | closeOuter : Move r o i (.close r.outer) o.close.1 i o.close.2
  | tellOuter (n : Notice) : Move r o i (.notify r.outer n) (o.notify n).1 i (o.notify n).2
  | tellInner (n : Notice) : Move r o i (.notify r.inner n) o (i.notify n).1 (i.notify n).2

/-! ### Joined handles -/

/-- Two handles as a relay leaves them. -/
structure Wired (r : Relay ε) (o i : Handle ε) : Prop where
  heldOuter : o.owners ≠ 0
  heldInner : i.owners ≠ 0
  relays : o.listeners = r.listeners
  uses : ∀ l ∈ i.listeners, ∀ n, ∀ c ∈ l.2 n, c.IsUse r.inner
  closerOuter : o.closer = none ∨ o.closer = some r.closer
  closerInner : i.closer = none ∨ i.closer = some [.close r.outer]
  cleared : o.closed = true → o.closer = none

/-- What errands have to do with two joined handles. -/
structure Due {ι : Type} (o i : Handle ε) (errand : ι → Option Errand) : Prop where
  /-- Only one party has the end to tell. -/
  unique : ∀ p q, errand p = some (.tell .closed) → errand q = some (.tell .closed) → p = q
  /-- It has so only between the ends of the two handles. -/
  ending : ∀ p, errand p = some (.tell .closed) → o.closed = true ∧ i.closed = false
  /-- The inner handle does not end before the outer one. -/
  late : i.closed = true → o.closed = true
  /-- A request to close is given out by the inner handle, which then has none left. -/
  asked : ∀ p, errand p = some .close → i.closer = none
  /-- When it has none left, the outer handle has nothing left to do, or the request is on its
  way. -/
  heeded : i.closer = none → o.closer = none ∨ ∃ p, errand p = some .close

/-- Handles joined by a relay, with the parties that deal with them. -/
structure Joined {ι : Type} (r : Relay ε) (o i : Handle ε) (w : Parties ι ε) : Prop where
  outerAt : w.handles[r.outer]? = some o
  innerAt : w.handles[r.inner]? = some i
  wired : Wired r o i
  orderly : ∀ p, Orderly r (w.waiting p)
  due : Due o i fun p => r.errand? (w.waiting p)

/-! ### What moves keep -/

section Moves

variable {o i o' i' : Handle ε} {c : Command ε} {more : List (Command ε)}

theorem Wired.closeInner (hw : Wired r o i) :
    i.closer = none ∧ i.close = (i, []) ∨
      i.closer = some [.close r.outer] ∧ i.close.2 = [.close r.outer] := by
  rcases hw.closerInner with h | h
  · left
    refine ⟨h, ?_⟩
    cases i
    simp_all [Handle.close]
  · exact .inr ⟨h, by simp [Handle.close, h]⟩

theorem Wired.calls_closeOuter (hw : Wired r o i) : ∀ c ∈ o.close.2, r.IsCall c := by
  intro c hc
  rcases hw.closerOuter with h | h
  · simp [Handle.close, h] at hc
  · exact .inl (r.feeds c (by simpa [Handle.close, h] using hc))

theorem Wired.tellOuter (hw : Wired r o i) {n : Notice} (hn : o.Minds n) :
    (o.notify n).2 = [.notify r.inner (n.decodedBy r.decode)] := by
  rw [Handle.notify_of_minds hn, reactions_of_listeners hw.relays]

theorem Wired.uses_tellInner (hw : Wired r o i) (n : Notice) :
    ∀ c ∈ (i.notify n).2, c.IsUse r.inner := by
  by_cases hn : i.Minds n
  · intro c hc
    rw [Handle.notify_of_minds hn, Handle.reactions] at hc
    obtain ⟨l, hl, hc⟩ := List.mem_flatMap.mp hc
    exact hw.uses l (List.mem_filter.mp hl).1 n c hc
  · simp [Handle.notify_of_not_minds hn]

theorem Wired.calls_tellInner (hw : Wired r o i) (n : Notice) :
    ∀ c ∈ (i.notify n).2, r.IsCall c :=
  fun c hc => .inr (hw.uses_tellInner n c hc)

/-- Two handles stay as a relay leaves them. -/
theorem Wired.move (hw : Wired r o i) (hm : Move r o i c o' i' more) :
    Wired r o' i' := by
  cases hm with
  | write entry => exact hw
  | listen kind react uses =>
    refine { hw with uses := fun l hl => ?_ }
    rcases List.mem_append.mp hl with hl | hl
    · exact hw.uses l hl
    · obtain rfl := List.mem_singleton.mp hl
      exact uses
  | closeInner => exact { hw with closerInner := .inl rfl }
  | closeOuter => exact { hw with closerOuter := .inl rfl, cleared := fun _ => rfl }
  | tellOuter n =>
    refine { hw with
      heldOuter := by simpa using hw.heldOuter
      relays := by simpa using hw.relays
      closerOuter := ?_
      cleared := fun h => ?_ }
    · rcases o.closer_notify n with h | ⟨-, h⟩
      · rw [h]
        exact hw.closerOuter
      · exact .inl h
    · by_cases hn : o.Minds n
      · rcases (o.closed_notify n).mp h with hc | rfl
        · rcases o.closer_notify n with h' | ⟨-, h'⟩
          · rw [h', hw.cleared hc]
          · exact h'
        · simp [Handle.notify, hn rfl]
      · rw [Handle.notify_of_not_minds hn] at h ⊢
        exact hw.cleared h
  | tellInner n =>
    refine { hw with
      heldInner := by simpa using hw.heldInner
      uses := by simpa using hw.uses
      closerInner := ?_ }
    rcases i.closer_notify n with h | ⟨-, h⟩
    · rw [h]
      exact hw.closerInner
    · exact .inl h

/-- What follows from a move is either for its party to do as it likes, or one errand. -/
theorem Wired.orderly_move (hw : Wired r o i)
    (hm : Move r o i c o' i' more) :
    (∀ c ∈ more, r.IsCall c) ∨ ∃ c, more = [c] ∧ (r.errand? [c]).isSome = true := by
  cases hm with
  | write entry => exact .inl (by simp)
  | listen kind react uses => exact .inl (by simp)
  | closeInner =>
    rcases hw.closeInner with ⟨-, h⟩ | ⟨-, h⟩
    · exact .inl (by simp [h])
    · exact .inr ⟨_, h, by simp [errand?]⟩
  | closeOuter => exact .inl hw.calls_closeOuter
  | tellOuter n =>
    by_cases hn : o.Minds n
    · exact .inr ⟨_, hw.tellOuter hn, by simp [errand?]⟩
    · exact .inl (by simp [Handle.notify_of_not_minds hn])
  | tellInner n => exact .inl (hw.calls_tellInner n)

end Moves

/-! ### What errands are due -/

section Due

variable {ι : Type} [DecidableEq ι] {o i o' i' : Handle ε} {c : Command ε}
  {more : List (Command ε)} {errand : ι → Option Errand}

theorem update_eq_some {p q : ι} {e : Option Errand} {x : Errand} :
    Function.update errand p e q = some x ↔ q = p ∧ e = some x ∨ q ≠ p ∧ errand q = some x := by
  by_cases h : q = p
  · subst h
    simp
  · simp [h]

theorem exists_update {p : ι} {x : Option Errand} (hp : errand p ≠ x) (e : Option Errand)
    (h : ∃ q, errand q = x) : ∃ q, Function.update errand p e q = x := by
  obtain ⟨q, hq⟩ := h
  have hqp : q ≠ p := by
    rintro rfl
    exact hp hq
  exact ⟨q, by rw [Function.update_of_ne hqp, hq]⟩

/-- A request to close is given out: the inner handle asks once. -/
theorem Due.give_close (hd : Due o i errand) (p : ι) :
    Due o i.close.1 (Function.update errand p (some .close)) := by
  obtain ⟨unique, ending, late, asked, heeded⟩ := hd
  have given : Function.update errand p (some .close) p = some .close := Function.update_self ..
  constructor <;> grind [update_eq_some, Handle.close]

/-- A request to close is done: the outer handle has nothing left to close. -/
theorem Due.do_close (hd : Due o i errand) {p : ι} (hp : errand p = some .close) :
    Due o.close.1 i (Function.update errand p none) := by
  obtain ⟨unique, ending, late, asked, heeded⟩ := hd
  constructor <;> grind [update_eq_some, Handle.close]

/-- The end is given out to be told: the outer handle minds it once. -/
theorem Due.give_end (hd : Due o i errand) (p : ι) (ho : o.closed = false) :
    Due (o.notify .closed).1 i (Function.update errand p (some (.tell .closed))) := by
  obtain ⟨unique, ending, late, asked, heeded⟩ := hd
  constructor <;> grind [update_eq_some, Handle.notify]

/-- The end is told: the inner handle has ended after the outer one. -/
theorem Due.do_end (hd : Due o i errand) {p : ι} (hp : errand p = some (.tell .closed))
    (cleared : o.closed = true → o.closer = none) :
    Due o (i.notify .closed).1 (Function.update errand p none) := by
  obtain ⟨unique, ending, late, asked, heeded⟩ := hd
  constructor <;> grind [update_eq_some, Handle.notify]

/-- Anything but the end is given out to be told. -/
theorem Due.give_notice (hd : Due o i errand) {p : ι} (hp : errand p = none) {n : Notice}
    (hn : n ≠ .closed) : Due o i (Function.update errand p (some (.tell n))) := by
  obtain ⟨unique, ending, late, asked, heeded⟩ := hd
  have hc : errand p ≠ some .close := by simp [hp]
  have still := exists_update hc (some (.tell n))
  constructor <;> grind [update_eq_some]

/-- A notice is told. -/
theorem Due.do_notice (hd : Due o i errand) {p : ι} {n : Notice}
    (hp : errand p = some (.tell n)) : Due o i (Function.update errand p none) := by
  obtain ⟨unique, ending, late, asked, heeded⟩ := hd
  have hc : errand p ≠ some .close := by simp [hp]
  have still := exists_update hc none
  constructor <;> grind [update_eq_some]

/-- What a move makes of the errands that are due. -/
theorem Due.move (hd : Due o i errand) (hw : Wired r o i) (hm : Move r o i c o' i' more) {p : ι}
    (hp : errand p = r.errand? [c]) :
    Due o' i' (Function.update errand p (r.errand? more)) := by
  -- Where no errand is given out and none was due, the table stays as it is.
  have idle : errand p = none → Function.update errand p none = errand := fun h => by
    rw [← h, Function.update_eq_self]
  cases hm with
  | write entry => rwa [show r.errand? ([] : List (Command ε)) = none from rfl, idle hp]
  | listen kind react uses =>
    rw [show r.errand? ([] : List (Command ε)) = none from rfl, idle hp]
    exact ⟨hd.unique, hd.ending, hd.late, hd.asked, hd.heeded⟩
  | closeInner =>
    have hp' : errand p = none := by simpa [errand?, r.apart.symm] using hp
    rcases hw.closeInner with ⟨-, h⟩ | ⟨-, h⟩
    · rw [h]
      change Due o i (Function.update errand p none)
      rwa [idle hp']
    · rw [h]
      simpa [errand?] using hd.give_close p
  | closeOuter =>
    rw [errand?_of_calls hw.calls_closeOuter]
    exact hd.do_close (by simpa [errand?] using hp)
  | tellOuter n =>
    have hp' : errand p = none := by simpa [errand?, r.apart] using hp
    by_cases hn : o.Minds n
    · rw [hw.tellOuter hn]
      by_cases hc : n = .closed
      · subst hc
        simpa [errand?, Notice.decodedBy] using hd.give_end p (hn rfl)
      · rw [Handle.notify_of_ne_closed hc]
        simpa [errand?] using hd.give_notice hp' (mt (Notice.decodedBy_eq_closed r.decode).mp hc)
    · rw [Handle.notify_of_not_minds hn]
      change Due o i (Function.update errand p none)
      rwa [idle hp']
  | tellInner n =>
    have hp' : errand p = some (.tell n) := by simpa [errand?] using hp
    rw [errand?_of_calls (hw.calls_tellInner n)]
    by_cases hc : n = .closed
    · subst hc
      exact hd.do_end hp' hw.cleared
    · rw [Handle.notify_of_ne_closed hc]
      exact hd.do_notice hp'

end Due

/-! ### Turns -/

section Turns

variable {ι : Type} {o i : Handle ε} {w : Parties ι ε} {p : ι} {c : Command ε}
  {rest : List (Command ε)}

theorem Joined.held_outer (h : Joined r o i w) :
    w.shared.held? r.outer = some o := by
  simp [Subscriptions.held?, Parties.shared, h.outerAt, h.wired.heldOuter]

theorem Joined.held_inner (h : Joined r o i w) :
    w.shared.held? r.inner = some i := by
  simp [Subscriptions.held?, Parties.shared, h.innerAt, h.wired.heldInner]

/-- What can wait first is a call or an errand. -/
theorem Orderly.head (h : Orderly r (c :: rest)) :
    c.IsFeed r.outer ∨ c.IsUse r.inner ∨ c = .close r.outer ∨ ∃ n, c = .notify r.inner n := by
  rcases h with h | ⟨_, _, heq, herrand, -⟩
  · exact (h c List.mem_cons_self).imp id .inl
  · cases heq
    cases c <;> simp_all [errand?]

variable [DecidableEq ι]

/-- **A turn is a move of the two handles.** -/
theorem Joined.exists_move (h : Joined r o i w)
    (hc : w.waiting p = c :: rest) :
    ∃ o' i' more, Move r o i c o' i' more ∧
      (w.turn p).handles[r.outer]? = some o' ∧ (w.turn p).handles[r.inner]? = some i' ∧
      (w.turn p).waiting = Function.update w.waiting p (more ++ rest) := by
  have ho := h.outerAt
  have hi := h.innerAt
  have hlo := (List.getElem?_eq_some_iff.mp ho).1
  have hli := (List.getElem?_eq_some_iff.mp hi).1
  rcases (hc ▸ h.orderly p).head with hf | hu | rfl | ⟨n, rfl⟩
  · cases hf with
    | write entry =>
      rw [Parties.turn_write hc]
      exact ⟨o, i, [], .write entry, ho, hi, rfl⟩
    | notify n =>
      rw [Parties.turn_notify h.held_outer hc]
      exact ⟨_, i, _, .tellOuter n, by simp [hlo], by simp [r.apart, hi], rfl⟩
  · cases hu with
    | write entry =>
      rw [Parties.turn_write hc]
      exact ⟨o, i, [], .write entry, ho, hi, rfl⟩
    | listen kind react uses =>
      rw [Parties.turn_listen h.held_inner hc]
      exact ⟨o, _, [], .listen kind react uses, by simp [r.apart.symm, ho], by simp [hli], rfl⟩
    | close =>
      rw [Parties.turn_close h.held_inner hc]
      exact ⟨o, _, _, .closeInner, by simp [r.apart.symm, ho], by simp [hli], rfl⟩
  · rw [Parties.turn_close h.held_outer hc]
    exact ⟨_, i, _, .closeOuter, by simp [hlo], by simp [r.apart, hi], rfl⟩
  · rw [Parties.turn_notify h.held_inner hc]
    exact ⟨o, _, _, .tellInner n, by simp [r.apart.symm, ho], by simp [hli], rfl⟩

/-- **Handles that are joined stay joined.** -/
theorem Joined.turn (h : Joined r o i w) (hc : w.waiting p = c :: rest) :
    ∃ o' i' more, Move r o i c o' i' more ∧
      (w.turn p).waiting = Function.update w.waiting p (more ++ rest) ∧
      Joined r o' i' (w.turn p) := by
  obtain ⟨o', i', more, hm, ho', hi', hw'⟩ := h.exists_move hc
  have hrest : ∀ c ∈ rest, r.IsCall c := (hc ▸ h.orderly p).tail
  have horderly := Orderly.append (h.wired.orderly_move hm) hrest
  have hdue := h.due.move h.wired hm (p := p)
    (by rw [hc]; exact errand?_append [c] hrest)
  have herrands : (fun q => r.errand? ((w.turn p).waiting q)) =
      Function.update (fun q => r.errand? (w.waiting q)) p
        (r.errand? more) := by
    funext q
    rw [hw']
    by_cases hq : q = p
    · rw [hq, Function.update_self, Function.update_self, errand?_append more hrest]
    · rw [Function.update_of_ne hq, Function.update_of_ne hq]
  refine ⟨o', i', more, hm, hw', ⟨ho', hi', h.wired.move hm, fun q => ?_, ?_⟩⟩
  · rw [hw']
    by_cases hq : q = p
    · rw [hq, Function.update_self]
      exact horderly
    · rw [Function.update_of_ne hq]
      exact h.orderly q
  · rw [herrands]
    exact hdue

/-- Parties of a relay. -/
def Tied (r : Relay ε) (w : Parties ι ε) : Prop := ∃ o i, Joined r o i w

theorem Tied.turn (w : Parties ι ε) (p : ι) (h : Tied r w) : Tied r (w.turn p) := by
  obtain ⟨o, i, hj⟩ := h
  cases hc : w.waiting p with
  | nil =>
    rw [Parties.turn_of_idle hc]
    exact ⟨o, i, hj⟩
  | cons c rest =>
    obtain ⟨o', i', -, -, -, hj'⟩ := hj.turn hc
    exact ⟨o', i', hj'⟩

end Turns

end Relay

end FieldQuery
