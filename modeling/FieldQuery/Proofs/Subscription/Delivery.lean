/-
**What reaches the caller.**

Whoever carries a subscription tells the outer of two joined handles what arrives, and the caller
listens to the inner one.  What the caller's listeners hear is what the carrier said, notice by
notice and in the same order, with every message decoded by itself.  The end is told once.  In the
other direction the caller may ask for the end as often as it likes; what the carrier left behind
to be done then is done once at most, and not after the end.

All of this holds for any number of parties with any calls, in whatever order they have their
turns, and listeners may register others and close the subscription while they are called.

Main definitions:

* `Relay.Faithful` — what a relay does for its parties, as a statement about a whole history;
* `Relay.Fresh` — handles that have just been joined.

Main results:

* `Relay.Joined.inOrder_turn`, `Relay.Tied.inOrder` — what is passed on is what was told;
* `Relay.Tied.count_running` — a handle is told the end once, and has ended then;
* `Relay.Tied.count_closes_le`, `Relay.Tied.le_count_closes` — how often the carrier's wish is done;
* `Relay.Tied.faithful` — **a relay is faithful**, whatever its parties do.
-/

import FieldQuery.Proofs.Subscription.Relay

set_option autoImplicit false

namespace FieldQuery

open Parties

variable {ε : Type}

/-- The notices among errands. -/
def Errand.notices : Option Errand → List Notice
  | some (.tell n) => [n]
  | _ => []

namespace Relay

/-- What a relay does for its parties, in the turns of a schedule. -/
structure Faithful {ι : Type} [DecidableEq ι] (r : Relay ε) (w : Parties ι ε)
    (schedule : List ι) : Prop where
  /-- A notice to the outer handle is passed on, with its message decoded. -/
  passes : ∀ d ∈ w.history schedule, ∀ n, d.notice? r.outer = some n →
    d.follows = [.notify r.inner (n.decodedBy r.decode)]
  /-- A notice to the inner handle has all react who listen to it then, in their order. -/
  reaches : ∀ d ∈ w.history schedule, ∀ n, d.notice? r.inner = some n →
    ∃ h, d.before.held? r.inner = some h ∧ d.follows = h.reactions n
  /-- What follows from a deed is the next that its party does. -/
  next : ∀ d ∈ w.history schedule,
    d.before.step.waiting = d.follows ++ d.before.waiting.tail
  /-- What follows from deeds is done, all of it and no more, but for what still waits. -/
  done : ∀ p, List.Perm
    ((deedsOf p (w.history schedule)).map Deed.command ++ (w.run schedule).waiting p)
    (w.waiting p ++ (deedsOf p (w.history schedule)).flatMap Deed.follows)
  /-- The notices to the inner handle are those to the outer one, in the same order, but for one
  that is still to be passed on. -/
  inOrder : ∀ p, (notices r.outer p (w.history schedule)).map (·.decodedBy r.decode) =
    notices r.inner p (w.history schedule) ++
      Errand.notices (r.errand? ((w.run schedule).waiting p))
  /-- The outer handle is told the end once. -/
  endsOnce : (w.history schedule).countP (fun d => d.notice? r.outer = some .closed) ≤ 1
  /-- A notice that the outer handle does not mind is the end once more, and does nothing. -/
  ignores : ∀ d ∈ w.history schedule, ∀ n, d.command = .notify r.outer n →
    d.notice? r.outer = none →
      n = .closed ∧ d.before.step = { d.before with waiting := d.before.waiting.tail }
  /-- The inner handle has ended when it was told so. -/
  ends : (w.run schedule).shared.closed? r.inner =
    some ((w.history schedule).any fun d => d.notice? r.inner = some .closed)
  /-- A request to close the outer handle has done what the carrier left, or nothing. -/
  closes : ∀ d ∈ w.history schedule, d.asks r.outer = true →
    d.follows = if d.closes r.outer then r.closer else []
  /-- What the carrier left is done once at most. -/
  closesOnce : (w.history schedule).countP (Deed.closes r.outer) ≤ 1
  /-- It is not done after the end. -/
  closesInTime : ∀ d ∈ w.history schedule, d.closes r.outer = true →
    d.before.closed? r.outer = some false
  /-- It is not done unless the inner handle was asked to close. -/
  closesOnDemand : (∀ d ∈ w.history schedule, d.asks r.inner = false) →
    ∀ d ∈ w.history schedule, d.closes r.outer = false
  /-- It is done if the inner handle was asked to close and there was no end before. -/
  closesInTheEnd : (w.run schedule).AtRest → (∃ d ∈ w.history schedule, d.asks r.inner = true) →
    (w.run schedule).shared.closed? r.outer = some false →
      (w.history schedule).countP (Deed.closes r.outer) = 1

/-! ### Single turns -/

section Turns

variable {ι : Type} {r : Relay ε} {o i : Handle ε} {w : Parties ι ε} {p : ι} {c : Command ε}

theorem Joined.minds_of_tell (h : Joined r o i w) {n : Notice}
    {rest : List (Command ε)} (hc : w.waiting p = .notify r.inner n :: rest) : i.Minds n := by
  rintro rfl
  exact (h.due.ending p (by simp [hc, errand?])).2

variable [DecidableEq ι] {rest : List (Command ε)}

/-- What is passed on in one turn is what was told. -/
theorem Joined.inOrder_turn (h : Joined r o i w)
    (hc : w.waiting p = c :: rest) :
    Errand.notices (r.errand? (w.waiting p)) ++
        (Deed.notice? r.outer ⟨p, w.view p, c⟩).toList.map (·.decodedBy r.decode) =
      (Deed.notice? r.inner ⟨p, w.view p, c⟩).toList ++
        Errand.notices (r.errand? ((w.turn p).waiting p)) := by
  obtain ⟨o', i', more, hm, hw', -⟩ := h.turn hc
  have hrest : ∀ c ∈ rest, r.IsCall c := (hc ▸ h.orderly p).tail
  have hfirst : r.errand? (c :: rest) = r.errand? [c] :=
    errand?_append [c] hrest
  rw [notice?_of_held h.held_outer, notice?_of_held h.held_inner, hw', Function.update_self,
    errand?_append more hrest, hc, hfirst]
  cases hm with
  | write entry => rfl
  | listen kind react uses => rfl
  | closeInner =>
    rcases h.wired.closeInner with ⟨-, hi⟩ | ⟨-, hi⟩ <;>
      simp [hi, errand?, r.apart.symm, Errand.notices]
  | closeOuter =>
    rw [errand?_of_calls h.wired.calls_closeOuter]
    simp [errand?, Errand.notices]
  | tellOuter n =>
    by_cases hn : o.Minds n
    · rw [h.wired.tellOuter hn]
      simp [errand?, Errand.notices, r.apart, hn]
    · rw [Handle.notify_of_not_minds hn]
      simp [errand?, Errand.notices, r.apart, hn]
  | tellInner n =>
    have hn : i.Minds n := h.minds_of_tell hc
    rw [errand?_of_calls (h.wired.calls_tellInner n)]
    simp [errand?, Errand.notices, r.apart.symm, hn]

/-- Either handle ends in a turn in which it is told so. -/
theorem Joined.running_turn (h : Joined r o i w) (hc : w.waiting p = c :: rest)
    {j : Nat} (hside : j = r.outer ∨ j = r.inner) :
    (decide (Deed.notice? j ⟨p, w.view p, c⟩ = some .closed)).toNat + running j (w.turn p) =
      running j w := by
  obtain ⟨o', i', more, hm, -, hj⟩ := h.turn hc
  rcases hside with rfl | rfl
  · rw [notice?_of_held h.held_outer, running_of_held h.held_outer, running_of_held hj.held_outer]
    cases hm with
    | tellOuter n => simpa using o.running_notify n
    | tellInner n => simp [r.apart.symm]
    | _ => simp [Handle.close]
  · rw [notice?_of_held h.held_inner, running_of_held h.held_inner, running_of_held hj.held_inner]
    cases hm with
    | tellInner n => simpa using i.running_notify n
    | tellOuter n => simp [r.apart]
    | _ => simp [Handle.close, Handle.listen]

/-- What closes the outer handle is used up when it is done. -/
theorem Joined.armed_outer_turn (h : Joined r o i w)
    (hc : w.waiting p = c :: rest) :
    (Deed.closes r.outer ⟨p, w.view p, c⟩).toNat + armed r.outer (w.turn p) ≤ armed r.outer w := by
  obtain ⟨o', i', more, hm, -, hj⟩ := h.turn hc
  rw [closes_of_held h.held_outer, armed_of_held h.held_outer, armed_of_held hj.held_outer]
  cases hm with
  | tellOuter n => rcases o.closer_notify n with hn | ⟨-, hn⟩ <;> simp [hn]
  | closeInner => simp [r.apart.symm]
  | closeOuter => simp [Handle.close]
  | _ => simp

/-- As long as the outer handle has not ended, nothing else uses up what closes it. -/
theorem Joined.armed_outer_le (h : Joined r o i w)
    (hc : w.waiting p = c :: rest) :
    armed r.outer w + (1 - running r.outer w) ≤
      (Deed.closes r.outer ⟨p, w.view p, c⟩).toNat +
        (armed r.outer (w.turn p) + (1 - running r.outer (w.turn p))) := by
  obtain ⟨o', i', more, hm, -, hj⟩ := h.turn hc
  rw [closes_of_held h.held_outer, armed_of_held h.held_outer, armed_of_held hj.held_outer,
    running_of_held h.held_outer, running_of_held hj.held_outer]
  cases hm with
  | tellOuter n =>
    have hcleared := h.wired.cleared
    by_cases hn : n = .closed
    · rcases Bool.eq_false_or_eq_true o.closed with ho | ho <;> cases hoc : o.closer <;>
        simp_all [Handle.notify]
    · simp [Handle.notify_of_ne_closed hn]
  | closeOuter => simp [Handle.close]
  | _ => simp

/-- Once asked, the inner handle does not ask again. -/
theorem Joined.armed_inner_turn (h : Joined r o i w)
    (hc : w.waiting p = c :: rest) :
    armed r.inner (w.turn p) ≤ armed r.inner w ∧
      (Deed.asks r.inner ⟨p, w.view p, c⟩ = true → armed r.inner (w.turn p) = 0) := by
  obtain ⟨o', i', more, hm, -, hj⟩ := h.turn hc
  rw [armed_of_held h.held_inner, armed_of_held hj.held_inner]
  cases hm with
  | tellInner n =>
    rcases i.closer_notify n with hn | ⟨-, hn⟩ <;> simp [hn, Deed.asks]
  | closeInner => simp [Handle.close]
  | closeOuter => simp [Deed.asks, r.apart]
  | _ => simp [Deed.asks, Handle.listen]

/-- Unless the inner handle has asked for it, nothing closes the outer one. -/
theorem Joined.closes_of_asks (h : Joined r o i w)
    (hc : w.waiting p = c :: rest) (hw : armed r.inner w = 1 ∨ armed r.outer w = 0)
    (hd : Deed.asks r.inner ⟨p, w.view p, c⟩ = false) :
    Deed.closes r.outer ⟨p, w.view p, c⟩ = false ∧
      (armed r.inner (w.turn p) = 1 ∨ armed r.outer (w.turn p) = 0) := by
  obtain ⟨o', i', more, hm, -, hj⟩ := h.turn hc
  rw [armed_of_held h.held_inner, armed_of_held h.held_outer] at hw
  rw [closes_of_held h.held_outer, armed_of_held hj.held_inner, armed_of_held hj.held_outer]
  cases hm with
  | write entry => exact ⟨rfl, hw⟩
  | listen kind react uses => exact ⟨rfl, hw⟩
  | closeInner => simp [Deed.asks] at hd
  | closeOuter =>
    have hi : i.closer = none := h.due.asked p (by simp [hc, errand?])
    simp_all [Handle.close]
  | tellOuter n =>
    refine ⟨rfl, hw.imp id fun ho => ?_⟩
    rcases o.closer_notify n with hn | ⟨-, hn⟩ <;> simp_all
  | tellInner n =>
    refine ⟨rfl, ?_⟩
    rcases i.closer_notify n with hn | ⟨rfl, hn⟩
    · rwa [hn]
    · right
      rw [h.wired.cleared (h.due.ending p (by simp [hc, errand?])).1]
      rfl

end Turns

/-! ### The relay is faithful -/

section Faithful

variable {ι : Type} [DecidableEq ι] {r : Relay ε} {w : Parties ι ε}

/-- Two handles that have just been joined. -/
structure Fresh (r : Relay ε) (w : Parties ι ε) : Prop where
  running : running r.outer w = 1 ∧ running r.inner w = 1
  armed : armed r.outer w = 1 ∧ armed r.inner w = 1
  idle : ∀ p, r.errand? (w.waiting p) = none

/-- What is passed on is what was told, but for an errand at either end. -/
theorem Tied.inOrder (h : Tied r w) (schedule : List ι) (q : ι) :
    Errand.notices (r.errand? (w.waiting q)) ++
        (notices r.outer q (w.history schedule)).map (·.decodedBy r.decode) =
      notices r.inner q (w.history schedule) ++
        Errand.notices (r.errand? ((w.run schedule).waiting q)) := by
  refine history_induction (Tied r)
    (fun w deeds last =>
      Errand.notices (r.errand? (w.waiting q)) ++
          (notices r.outer q deeds).map (·.decodedBy r.decode) =
        notices r.inner q deeds ++ Errand.notices (r.errand? (last.waiting q)))
    Tied.turn (fun w _ => by simp [notices, deedsOf]) ?_ h schedule
  rintro w p c rest deeds last ⟨o, i, hj⟩ hc ih
  by_cases hq : p = q
  · subst hq
    have hstep := hj.inOrder_turn hc
    have hcons : ∀ j, notices j p (⟨p, w.view p, c⟩ :: deeds) =
        (Deed.notice? j ⟨p, w.view p, c⟩).toList ++ notices j p deeds := fun j => by
      cases hd : Deed.notice? j ⟨p, w.view p, c⟩ <;> simp [notices, deedsOf, hd]
    rw [hcons, hcons, List.map_append, ← List.append_assoc, hstep, List.append_assoc, ih,
      List.append_assoc]
  · have hcons : ∀ j, notices j q (⟨p, w.view p, c⟩ :: deeds) = notices j q deeds := fun j => by
      simp [notices, deedsOf, hq]
    rw [turn_waiting hc, Function.update_of_ne (Ne.symm hq)] at ih
    rw [hcons, hcons, ih]

/-- Either handle has ended if it was told so, which happens once. -/
theorem Tied.count_running (h : Tied r w) (schedule : List ι) {j : Nat}
    (hside : j = r.outer ∨ j = r.inner) :
    (w.history schedule).countP (fun d => d.notice? j = some .closed) +
      running j (w.run schedule) = running j w := by
  refine Nat.le_antisymm (count_add_le (running j) Tied.turn ?_ h schedule)
    (le_count_add (running j) Tied.turn ?_ h schedule)
  · rintro w p c rest ⟨o, i, hj⟩ hc
    exact Nat.le_of_eq (hj.running_turn hc hside)
  · rintro w p c rest ⟨o, i, hj⟩ hc
    exact Nat.le_of_eq (hj.running_turn hc hside).symm

theorem Tied.count_closes_le (h : Tied r w) (schedule : List ι) :
    (w.history schedule).countP (Deed.closes r.outer) + armed r.outer (w.run schedule) ≤
      armed r.outer w := by
  refine count_add_le (armed r.outer) Tied.turn ?_ h schedule
  rintro w p c rest ⟨o, i, hj⟩ hc
  exact hj.armed_outer_turn hc

theorem Tied.le_count_closes (h : Tied r w) (schedule : List ι) :
    armed r.outer w + (1 - running r.outer w) ≤
      (w.history schedule).countP (Deed.closes r.outer) +
        (armed r.outer (w.run schedule) + (1 - running r.outer (w.run schedule))) := by
  refine le_count_add (fun w => armed r.outer w + (1 - running r.outer w)) Tied.turn ?_ h schedule
  rintro w p c rest ⟨o, i, hj⟩ hc
  exact hj.armed_outer_le hc

/-- Unless the inner handle is asked to close, nothing closes the outer one. -/
theorem Tied.closes_of_asks (h : Tied r w) (schedule : List ι)
    (hw : armed r.inner w = 1 ∨ armed r.outer w = 0)
    (hd : ∀ d ∈ w.history schedule, d.asks r.inner = false) :
    ∀ d ∈ w.history schedule, d.closes r.outer = false := by
  refine history_induction (Tied r)
    (fun w deeds _ => armed r.inner w = 1 ∨ armed r.outer w = 0 →
      (∀ d ∈ deeds, d.asks r.inner = false) → ∀ d ∈ deeds, d.closes r.outer = false)
    Tied.turn (by simp) ?_ h schedule hw hd
  rintro w p c rest deeds last ⟨o, i, hj⟩ hc ih hw hd d hmem
  obtain ⟨hfirst, hnext⟩ := hj.closes_of_asks hc hw (hd _ List.mem_cons_self)
  rcases List.mem_cons.mp hmem with rfl | hmem
  · exact hfirst
  · exact ih hnext (fun d hd' => hd d (List.mem_cons_of_mem _ hd')) d hmem

/-- Once the inner handle was asked to close, it has nothing left to close. -/
theorem Tied.armed_of_asks (h : Tied r w) (schedule : List ι)
    (hd : armed r.inner w = 0 ∨ ∃ d ∈ w.history schedule, d.asks r.inner = true) :
    armed r.inner (w.run schedule) = 0 := by
  refine history_induction (Tied r)
    (fun w deeds last => (armed r.inner w = 0 ∨ ∃ d ∈ deeds, d.asks r.inner = true) →
      armed r.inner last = 0) Tied.turn (by simp) ?_ h schedule hd
  rintro w p c rest deeds last ⟨o, i, hj⟩ hc ih hd
  obtain ⟨hle, hask⟩ := hj.armed_inner_turn hc
  apply ih
  rcases hd with hd | ⟨d, hmem, hd⟩
  · exact .inl (by omega)
  · rcases List.mem_cons.mp hmem with rfl | hmem
    · exact .inl (hask hd)
    · exact .inr ⟨d, hmem, hd⟩

/-- A deed of parties of a relay is a move of the two handles. -/
theorem Tied.move_of_mem (h : Tied r w) {schedule : List ι} {d : Deed ι ε}
    (hd : d ∈ w.history schedule) :
    ∃ w' rest o i o' i', Joined r o i w' ∧
      w'.waiting d.party = d.command :: rest ∧ d = ⟨d.party, w'.view d.party, d.command⟩ ∧
        Move r o i d.command o' i' d.follows := by
  obtain ⟨w', rest, ⟨o, i, hj⟩, hc, hb⟩ := exists_of_mem_history Tied.turn h hd
  obtain ⟨p, before, c⟩ := d
  obtain rfl : before = w'.view p := hb
  obtain ⟨o', i', more, hm, hw', -⟩ := hj.turn hc
  have hmore : Deed.follows ⟨p, w'.view p, c⟩ = more := by
    have hp := congrFun ((turn_waiting hc).symm.trans hw') p
    simpa using hp
  exact ⟨w', rest, o, i, o', i', hj, hc, rfl, hmore ▸ hm⟩

theorem Tied.passes (h : Tied r w) {schedule : List ι} {d : Deed ι ε}
    (hd : d ∈ w.history schedule) {n : Notice} (hn : d.notice? r.outer = some n) :
    d.follows = [.notify r.inner (n.decodedBy r.decode)] := by
  obtain ⟨w', rest, o, i, o', i', hj, hc, hdeed, hm⟩ := h.move_of_mem hd
  rw [hdeed, notice?_of_held hj.held_outer] at hn
  generalize hmore : d.follows = more at hm
  generalize d.command = c at hm hn
  cases hm with
  | tellOuter m =>
    simp only [true_and, Option.ite_none_right_eq_some, Option.some.injEq] at hn
    obtain ⟨hminds, rfl⟩ := hn
    exact hj.wired.tellOuter hminds
  | tellInner m => simp [r.apart.symm] at hn
  | _ => simp at hn

theorem Tied.reaches (h : Tied r w) {schedule : List ι} {d : Deed ι ε}
    (hd : d ∈ w.history schedule) {n : Notice} (hn : d.notice? r.inner = some n) :
    ∃ x, d.before.held? r.inner = some x ∧ d.follows = x.reactions n := by
  obtain ⟨w', rest, o, i, o', i', hj, hc, hdeed, hm⟩ := h.move_of_mem hd
  have hheld : d.before.held? r.inner = some i := by
    rw [hdeed]
    exact hj.held_inner
  rw [hdeed, notice?_of_held hj.held_inner] at hn
  generalize hmore : d.follows = more at hm
  generalize d.command = c at hm hn
  cases hm with
  | tellInner m =>
    simp only [true_and, Option.ite_none_right_eq_some, Option.some.injEq] at hn
    obtain ⟨hminds, rfl⟩ := hn
    exact ⟨i, hheld, Handle.notify_of_minds hminds⟩
  | tellOuter m => simp [r.apart] at hn
  | _ => simp at hn

theorem Tied.ignores (h : Tied r w) {schedule : List ι} {d : Deed ι ε}
    (hd : d ∈ w.history schedule) {n : Notice} (hc : d.command = .notify r.outer n)
    (hn : d.notice? r.outer = none) :
    n = .closed ∧ d.before.step = { d.before with waiting := d.before.waiting.tail } := by
  obtain ⟨w', rest, o, i, -, -, hj, hw', hdeed, -⟩ := h.move_of_mem hd
  rw [hdeed, notice?_of_held hj.held_outer, hc] at hn
  have hminds : ¬ o.Minds n := by simpa using hn
  obtain ⟨rfl, -⟩ := Classical.not_imp.mp hminds
  obtain ⟨hlt, hget⟩ := List.getElem?_eq_some_iff.mp hj.outerAt
  have hset : w'.handles.set r.outer o = w'.handles := by
    rw [← hget, List.set_getElem_self]
  have hheld : Subscriptions.held? ⟨w'.handles, rest, w'.written⟩ r.outer = some o :=
    hj.held_outer
  refine ⟨rfl, ?_⟩
  rw [hc] at hw'
  rw [hdeed]
  simp [view, Subscriptions.step, hw', Subscriptions.carryOut, Subscriptions.changeThen, hheld,
    Handle.notify_of_not_minds hminds, hset]

theorem Tied.closes (h : Tied r w) {schedule : List ι} {d : Deed ι ε}
    (hd : d ∈ w.history schedule) (hn : d.asks r.outer = true) :
    d.follows = if d.closes r.outer then r.closer else [] := by
  obtain ⟨w', rest, o, i, o', i', hj, hc, hdeed, hm⟩ := h.move_of_mem hd
  have hcloses : d.closes r.outer = o.closer.isSome := by
    rw [Deed.closes, hn, Bool.true_and, hdeed, held?_view, hj.held_outer, Option.any_some]
  rw [hcloses]
  rw [hdeed, Deed.asks] at hn
  generalize hmore : d.follows = more at hm
  generalize d.command = c at hm hn
  cases hm with
  | closeOuter => rcases hj.wired.closerOuter with ho | ho <;> simp [Handle.close, ho]
  | closeInner => simp [r.apart.symm] at hn
  | _ => simp at hn

theorem Tied.closes_in_time (h : Tied r w) {schedule : List ι} {d : Deed ι ε}
    (hd : d ∈ w.history schedule) (hn : d.closes r.outer = true) :
    d.before.closed? r.outer = some false := by
  obtain ⟨w', rest, o, i, -, -, hj, -, hdeed, -⟩ := h.move_of_mem hd
  rw [hdeed] at hn ⊢
  have hsome : o.closer.isSome = true := by
    simp only [Deed.closes, held?_view, hj.held_outer, Option.any_some, Bool.and_eq_true] at hn
    exact hn.2
  have hclosed : o.closed = false := by
    rw [← Bool.not_eq_true]
    intro ho
    simp [hj.wired.cleared ho] at hsome
  simp [Subscriptions.closed?, held?_view, hj.held_outer, hclosed]

/-- **A relay is faithful**, whatever its parties do and in whatever order they have their turns. -/
theorem Tied.faithful (h : Tied r w) (hf : Fresh r w)
    (schedule : List ι) : Faithful r w schedule where
  passes _ hd _ hn := h.passes hd hn
  reaches _ hd _ hn := h.reaches hd hn
  next d hd := by
    obtain ⟨w', rest, o, i, -, -, -, hc, hdeed, -⟩ := h.move_of_mem hd
    rw [hdeed]
    change (w'.view d.party).step.waiting = _ ++ (w'.waiting d.party).tail
    rw [Subscriptions.step_waiting (s := w'.view d.party) hc, hc]
    rfl
  done p := history_perm w p schedule
  inOrder p := by
    have hp := h.inOrder schedule p
    rwa [hf.idle p] at hp
  endsOnce := by
    have hcount := h.count_running schedule (.inl rfl)
    rw [hf.running.1] at hcount
    omega
  ignores _ hd _ hc hn := h.ignores hd hc hn
  ends := by
    have hcount := h.count_running schedule (.inr rfl)
    obtain ⟨o, i, hj⟩ := inv_run Tied.turn h schedule
    rw [hf.running.2, running_of_held hj.held_inner] at hcount
    have hany : i.closed = true ↔
        0 < (w.history schedule).countP fun d => d.notice? r.inner = some .closed := by
      generalize (w.history schedule).countP _ = k at hcount ⊢
      cases hi : i.closed <;> simp [hi] at hcount ⊢ <;> omega
    rw [Subscriptions.closed?, hj.held_inner, Option.map_some, Option.some.injEq,
      Bool.eq_iff_iff, hany, List.countP_pos_iff, List.any_eq_true]
  closes _ hd hn := h.closes hd hn
  closesOnce := by
    have hcount := h.count_closes_le schedule
    rw [hf.armed.1] at hcount
    omega
  closesInTime _ hd hn := h.closes_in_time hd hn
  closesOnDemand := h.closes_of_asks schedule (.inl hf.armed.2)
  closesInTheEnd hrest hasks hrunning := by
    have hle := h.le_count_closes schedule
    have hge := h.count_closes_le schedule
    have hinner := h.armed_of_asks schedule (.inr hasks)
    obtain ⟨o, i, hj⟩ := inv_run Tied.turn h schedule
    -- At rest no request to close is on its way, so there is nothing left to close.
    have houter : armed r.outer (w.run schedule) = 0 := by
      rw [armed_of_held hj.held_inner] at hinner
      rw [armed_of_held hj.held_outer]
      rcases hj.due.heeded (by cases hi : i.closer <;> simp_all) with ho | ⟨p, hp⟩
      · simp [ho]
      · simp [hrest p, errand?] at hp
    have hone : running r.outer (w.run schedule) = 1 := by simp [running, hrunning]
    rw [hf.armed.1, hf.running.1, houter, hone] at hle
    rw [hf.armed.1] at hge
    omega

end Faithful

end Relay

end FieldQuery
