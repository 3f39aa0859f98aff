/-
**What a handle keeps count of.**

Listeners and closers run while nobody holds the lock of a handle.  So a listener may register
others for the very notice that it answers, close the handle, or give it notices, and whoever is
called then may do the same.  A count that is kept across a call could be out of date when the call
returns.  None is kept: a notice takes the list of its listeners before the first of them is called,
the end is noted before anybody hears of it, and a closer is taken out before it runs.

A party is a thread of control.  What it calls comes before what waited, so a call ends before the
next listener is called, whatever other parties do in between.  A listener that makes up its mind
only while it runs is no exception: what it decides on is what a party of its own does, for parties
have their turns in any order whatever, and all handles in common.

What a handle owes to its history is a function of the history, deed by deed.  What is said of a
whole history is read off this function where the history is cut.

Main definitions:

* `Parties.Deed.tells?`, `Parties.Deed.installs?` — notices given, and closers installed;
* `Parties.listenersFor`, `Parties.ended`, `Parties.slot` — what a history makes of a handle;
* `Parties.Carried` — commands carried out one after the other, with all that follows;
* `Parties.InTurn` — listeners called one after the other;
* `Parties.RunsCloser` — which deed runs the closer that a deed has installed;
* `Parties.KeepsRegistry` — the laws of a handle.

Main results:

* `Parties.reflects_history` — **a handle is what its history makes of it**;
* `Parties.carried_history` — a party carries out what waits for it, with all that follows;
* `Parties.Carried.inTurn` — the listeners of a notice are called one after the other;
* `Parties.InTurn.exists_calls` — who is to be called has been called when nothing is left to do;
* `Parties.exists_installed_of_slot` — the closer that is left is the one installed last;
* `Parties.keepsRegistry_of_new_handle` — **a handle keeps its laws from its making**, whatever
  anybody does with it.
-/

import FieldQuery.Proofs.Subscription.Parties
import Mathlib.Data.List.Induction

set_option autoImplicit false

namespace FieldQuery

namespace Subscriptions

variable {ε : Type} (s : Subscriptions ε) (i j : Nat)

theorem held?_eq_some {x : Handle ε} (hx : s.handles[j]? = some x) :
    s.held? j = if x.owners = 0 then Option.none else some x := by
  by_cases ho : x.owners = 0 <;> simp [held?, Option.filter, hx, ho]

theorem getElem?_changeThen (f : Handle ε → Handle ε × List (Command ε)) :
    (s.changeThen i f).handles[j]? =
      s.handles[j]?.map fun h => if i = j ∧ h.owners ≠ 0 then (f h).1 else h := by
  by_cases hij : i = j
  · subst hij
    cases hx : s.handles[i]? with
    | none => simp [changeThen, held?, hx]
    | some h =>
      rw [changeThen, s.held?_eq_some i hx]
      by_cases ho : h.owners = 0 <;> simp [List.getElem?_set_self', hx, ho]
  · rw [changeThen]
    split <;> simp [hij]

theorem getElem?_change (f : Handle ε → Handle ε) :
    (s.change i f).handles[j]? =
      s.handles[j]?.map fun h => if i = j ∧ h.owners ≠ 0 then f h else h := by
  have hsame : (s.change i f).handles = (s.changeThen i fun h => (f h, [])).handles := by
    rw [change, changeThen]
    cases s.held? i <;> rfl
  rw [hsame, getElem?_changeThen]

end Subscriptions

namespace Parties

variable {ι ε : Type}

/-! ### What a history makes of a handle -/

/-- The notice that a deed gives a handle, minded or not. -/
def Deed.tells? (j : Nat) (d : Deed ι ε) : Option Notice :=
  match d.command with
  | .notify k n => if k = j ∧ (d.before.held? j).isSome then some n else none
  | _ => none

/-- The closer that a deed installs in a handle. -/
def Deed.installs? (j : Nat) (d : Deed ι ε) : Option (List (Command ε)) :=
  match d.command with
  | .closeWith k closer => if k = j ∧ (d.before.held? j).isSome then some closer else none
  | _ => none

/-- Whether a deed leaves a handle without a closer: it closes the handle or ends it. -/
def Deed.empties (j : Nat) (d : Deed ι ε) : Bool :=
  d.closes j || d.notice? j = some .closed

/-- The listeners that have been registered with a handle, in their order. -/
def registered (j : Nat) (deeds : List (Deed ι ε)) : List (Notice.Kind × Reaction ε) :=
  deeds.filterMap fun d => (d.registers? j).map Prod.snd

/-- The listeners of a kind that have been registered with a handle, in their order. -/
def listenersFor (j : Nat) (kind : Notice.Kind) (deeds : List (Deed ι ε)) : List (Reaction ε) :=
  ((registered j deeds).filter fun l => l.1 = kind).map Prod.snd

/-- Whether a handle has been told its end. -/
def ended (j : Nat) (deeds : List (Deed ι ε)) : Prop := ∃ d ∈ deeds, d.tells? j = some .closed

/-- The closer after a deed. -/
def Deed.leaves (j : Nat) (closer : Option (List (Command ε))) (d : Deed ι ε) :
    Option (List (Command ε)) :=
  (d.installs? j).or (if d.empties j then none else closer)

/-- The closer that a history leaves in a handle. -/
def slot (j : Nat) (deeds : List (Deed ι ε)) : Option (List (Command ε)) :=
  deeds.foldl (Deed.leaves j) none

@[simp] theorem registered_append (j : Nat) (ds es : List (Deed ι ε)) :
    registered j (ds ++ es) = registered j ds ++ registered j es :=
  List.filterMap_append

theorem slot_concat (j : Nat) (ds : List (Deed ι ε)) (d : Deed ι ε) :
    slot j (ds ++ [d]) = d.leaves j (slot j ds) := by
  simp [slot]

theorem ended_concat {j : Nat} {ds : List (Deed ι ε)} {d : Deed ι ε} :
    ended j (ds ++ [d]) ↔ ended j ds ∨ d.tells? j = some .closed := by
  simp [ended, or_and_right, exists_or]

/-- A handle after a deed. -/
def Deed.effect (j : Nat) (d : Deed ι ε) (x : Handle ε) : Handle ε :=
  if x.owners = 0 then x
  else match d.command with
    | .write _ => x
    | .listen k kind react => if k = j then x.listen kind react else x
    | .closeWith k closer => if k = j then { x with closer := some closer } else x
    | .close k => if k = j then x.close.1 else x
    | .notify k n => if k = j then (x.notify n).1 else x
    | .share k => if k = j then x.share else x
    | .release k => if k = j then x.release else x

section Effects

variable {d : Deed ι ε} {j : Nat} {x : Handle ε}

theorem Deed.listeners_effect (hx : d.before.handles[j]? = some x) :
    (d.effect j x).listeners = x.listeners ++ registered j [d] := by
  have hheld := d.before.held?_eq_some j hx
  obtain ⟨p, before, c⟩ := d
  by_cases ho : x.owners = 0
  · cases c <;> simp [effect, registered, registers?, hheld, ho]
  · cases c with
    | write entry => simp [effect, registered, registers?]
    | listen k kind react =>
      by_cases hk : k = j <;> simp [effect, registered, registers?, hheld, ho, hk, Handle.listen]
    | _ k =>
      by_cases hk : k = j <;>
        simp [effect, registered, registers?, ho, hk, Handle.close, Handle.share, Handle.release]

theorem Deed.closed_effect (hx : d.before.handles[j]? = some x) :
    (d.effect j x).closed = true ↔ x.closed = true ∨ d.tells? j = some .closed := by
  have hheld := d.before.held?_eq_some j hx
  obtain ⟨p, before, c⟩ := d
  by_cases ho : x.owners = 0
  · cases c <;> simp [effect, tells?, hheld, ho]
  · cases c with
    | write entry => simp [effect, tells?]
    | notify k n =>
      by_cases hk : k = j <;> simp [effect, tells?, hheld, ho, hk, Handle.closed_notify]
    | _ k =>
      by_cases hk : k = j <;>
        simp [effect, tells?, ho, hk, Handle.listen, Handle.close, Handle.share, Handle.release]

theorem Deed.closer_effect (hx : d.before.handles[j]? = some x) :
    (d.effect j x).closer = d.leaves j x.closer := by
  have hheld := d.before.held?_eq_some j hx
  obtain ⟨p, before, c⟩ := d
  by_cases ho : x.owners = 0
  · cases c <;> simp [effect, leaves, installs?, empties, closes, asks, notice?, hheld, ho]
  · cases c with
    | write entry => simp [effect, leaves, installs?, empties, closes, asks, notice?]
    | close k =>
      cases hcloser : x.closer <;> by_cases hk : k = j <;>
        simp [effect, leaves, installs?, empties, closes, asks, notice?, hheld, ho, hk,
          Handle.close, hcloser]
    | notify k n =>
      cases n <;> cases hclosed : x.closed <;> by_cases hk : k = j <;>
        simp [effect, leaves, installs?, empties, closes, asks, notice?, hheld, ho, hk,
          Handle.notify, Handle.Minds, hclosed]
    | _ k =>
      by_cases hk : k = j <;>
        simp [effect, leaves, installs?, empties, closes, asks, notice?, hheld, ho, hk,
          Handle.listen, Handle.share, Handle.release]

theorem Deed.owners_effect (hd : d.command ≠ .release j) (ho : x.owners ≠ 0) :
    (d.effect j x).owners ≠ 0 := by
  rw [effect, if_neg ho]
  cases hc : d.command with
  | release k =>
    have hk : k ≠ j := by
      rintro rfl
      exact hd hc
    simpa [hk] using ho
  | write entry => exact ho
  | _ k => by_cases hk : k = j <;> simp [hk, ho, Handle.listen, Handle.close, Handle.share]

end Effects

/-- A handle is what a history makes of it. -/
structure Reflects (j : Nat) (deeds : List (Deed ι ε)) (h : Handle ε) : Prop where
  listeners : h.listeners = registered j deeds
  closed : h.closed = true ↔ ended j deeds
  closer : h.closer = slot j deeds
  owned : (∀ d ∈ deeds, d.command ≠ .release j) → h.owners ≠ 0

/-- What a deed does to a handle is what it adds to the history. -/
theorem Reflects.effect {j : Nat} {deeds : List (Deed ι ε)} {d : Deed ι ε} {x : Handle ε}
    (h : Reflects j deeds x) (hx : d.before.handles[j]? = some x) :
    Reflects j (deeds ++ [d]) (d.effect j x) where
  listeners := by rw [Deed.listeners_effect hx, h.listeners, registered_append]
  closed := by rw [Deed.closed_effect hx, h.closed, ended_concat]
  closer := by rw [Deed.closer_effect hx, h.closer, slot_concat]
  owned := by
    intro hkept
    have howned := h.owned fun e he => hkept e (List.mem_append_left _ he)
    exact Deed.owners_effect (hkept d (List.mem_append_right _ (List.mem_singleton_self d))) howned

/-- What a handle does about a notice is what the listeners of its kind do. -/
theorem Reflects.reactions {j : Nat} {deeds : List (Deed ι ε)} {h : Handle ε}
    (hh : Reflects j deeds h) (n : Notice) :
    h.reactions n = (listenersFor j n.kind deeds).flatMap fun react => react n := by
  rw [Handle.reactions, hh.listeners, listenersFor, List.flatMap_map]

/-- A handle that has just been made has no history. -/
theorem reflects_fresh (j : Nat) : Reflects j ([] : List (Deed ι ε)) .fresh :=
  ⟨rfl, by simp [Handle.fresh, ended], rfl, fun _ => Nat.one_ne_zero⟩

section Turns

variable [DecidableEq ι] {w : Parties ι ε} {j : Nat}

theorem getElem?_turn {p : ι} {c : Command ε} {rest : List (Command ε)}
    (hc : w.waiting p = c :: rest) :
    (w.turn p).handles[j]? = w.handles[j]?.map (Deed.effect j ⟨p, w.view p, c⟩) := by
  have hview : (w.view p).waiting = c :: rest := hc
  rw [turn, adopt, Subscriptions.step, hview]
  cases hx : w.handles[j]? with
  | none =>
    cases c <;> simp [Subscriptions.carryOut, Subscriptions.getElem?_change,
      Subscriptions.getElem?_changeThen, view, hx]
  | some x =>
    by_cases ho : x.owners = 0 <;> cases c <;>
      simp [Subscriptions.carryOut, Subscriptions.getElem?_change,
        Subscriptions.getElem?_changeThen, Deed.effect, view, hx, ho]

/-- **A handle is what its history makes of it.** -/
theorem reflects_history (hw : w.handles[j]? = some .fresh) (schedule : List ι) :
    ∃ x, (w.run schedule).handles[j]? = some x ∧ Reflects j (w.history schedule) x := by
  induction schedule using List.reverseRecOn with
  | nil => exact ⟨.fresh, hw, reflects_fresh j⟩
  | append_singleton schedule p ih =>
    obtain ⟨x, hx, hreflects⟩ := ih
    rw [run_append, history_append]
    cases hc : (w.run schedule).waiting p with
    | nil =>
      rw [history_of_idle hc, run_cons, turn_of_idle hc]
      exact ⟨x, hx, by rwa [history, List.append_nil]⟩
    | cons c rest =>
      rw [history_of_waiting hc, run_cons, run_nil, getElem?_turn hc, hx]
      exact ⟨_, rfl, hreflects.effect hx⟩

end Turns

/-! ### What follows from deeds -/

section Follows

variable {d : Deed ι ε} {j : Nat} {x : Handle ε} {n : Notice}

theorem Deed.tells?_eq_some_iff :
    d.tells? j = some n ↔ d.command = .notify j n ∧ (d.before.held? j).isSome = true := by
  obtain ⟨p, before, c⟩ := d
  cases c with
  | notify k m =>
    simp only [tells?, Option.ite_none_right_eq_some, Option.some.injEq, Command.notify.injEq]
    constructor
    · rintro ⟨⟨hk, hheld⟩, hm⟩
      exact ⟨⟨hk, hm⟩, hheld⟩
    · rintro ⟨⟨hk, hm⟩, hheld⟩
      exact ⟨⟨hk, hheld⟩, hm⟩
  | _ => simp [tells?]

theorem Deed.held?_of_tells (hx : d.before.handles[j]? = some x) (hn : d.tells? j = some n) :
    d.before.held? j = some x := by
  have hheld := (tells?_eq_some_iff.mp hn).2
  rw [d.before.held?_eq_some j hx] at hheld ⊢
  by_cases ho : x.owners = 0
  · simp [ho] at hheld
  · exact if_neg ho

theorem Deed.follows_of_tells (hx : d.before.handles[j]? = some x) (hn : d.tells? j = some n) :
    d.follows = (x.notify n).2 := by
  have hheld : Subscriptions.held? { d.before with waiting := [] } j = some x :=
    held?_of_tells hx hn
  rw [follows, (tells?_eq_some_iff.mp hn).1]
  simp [Subscriptions.carryOut, Subscriptions.changeThen, hheld]

theorem Deed.notice?_of_tells (hx : d.before.handles[j]? = some x) (hn : d.tells? j = some n)
    (hminds : x.Minds n) : d.notice? j = some n := by
  rw [notice?, (tells?_eq_some_iff.mp hn).1]
  simp [held?_of_tells hx hn, hminds]

/-- What tells a handle something does not close it. -/
theorem Deed.closes_of_tells (hn : d.tells? j = some n) : d.closes j = false := by
  simp [closes, asks, (tells?_eq_some_iff.mp hn).1]

theorem Deed.follows_of_asks (hx : d.before.handles[j]? = some x) (h : d.asks j = true) :
    d.follows = if d.closes j then x.closer.getD [] else [] := by
  obtain ⟨p, before, c⟩ := d
  cases c with
  | close k =>
    obtain rfl : k = j := by simpa [asks] using h
    have hheld := before.held?_eq_some k hx
    have hview : Subscriptions.held? { before with waiting := [] } k = before.held? k := rfl
    by_cases ho : x.owners = 0
    · simp [follows, Subscriptions.carryOut, Subscriptions.changeThen, closes, hview, hheld, ho]
    · cases hcloser : x.closer <;>
        simp [follows, Subscriptions.carryOut, Subscriptions.changeThen, closes, asks, Handle.close,
          hview, hheld, ho, hcloser]
  | _ => simp [asks] at h

theorem Deed.closer_of_closes (hx : d.before.handles[j]? = some x) (h : d.closes j = true) :
    x.closer = some d.follows := by
  have hasks : d.asks j = true := by
    simp only [closes, Bool.and_eq_true] at h
    exact h.1
  have hsome : x.closer.isSome = true := by
    rw [closes, d.before.held?_eq_some j hx] at h
    by_cases ho : x.owners = 0
    · simp [ho] at h
    · simpa [ho, hasks] using h
  obtain ⟨closer, hcloser⟩ := Option.isSome_iff_exists.mp hsome
  rw [Deed.follows_of_asks hx hasks, if_pos h, hcloser, Option.getD_some]

end Follows

/-! ### One after the other -/

/-- Commands are carried out one after the other, each with all that follows from it, as far as
the deeds go. -/
inductive Carried : List (Command ε) → List (Deed ι ε) → List (Command ε) → Prop
  | stop (cs : List (Command ε)) : Carried cs [] cs
  | step {d : Deed ι ε} {cs left : List (Command ε)} {deeds : List (Deed ι ε)}
      (later : Carried (d.follows ++ cs) deeds left) :
      Carried (d.command :: cs) (d :: deeds) left

/-- What comes first is carried out first, either in part or as a whole. -/
theorem Carried.split {cs left : List (Command ε)} {deeds : List (Deed ι ε)}
    (h : Carried cs deeds left) {first rest : List (Command ε)} (hcs : cs = first ++ rest) :
    (∃ more, more ≠ [] ∧ Carried first deeds more ∧ left = more ++ rest) ∨
      ∃ call later, deeds = call ++ later ∧ Carried first call [] ∧ Carried rest later left := by
  induction h generalizing first with
  | stop cs =>
    subst hcs
    cases first with
    | nil => exact .inr ⟨[], [], rfl, .stop [], .stop rest⟩
    | cons c first => exact .inl ⟨c :: first, by simp, .stop _, rfl⟩
  | @step d cs left deeds later ih =>
    cases first with
    | nil =>
      obtain rfl : d.command :: cs = rest := hcs
      exact .inr ⟨[], _, rfl, .stop [], .step later⟩
    | cons c first =>
      obtain ⟨rfl, rfl⟩ := List.cons.inj hcs
      rcases ih (List.append_assoc _ _ _).symm with ⟨more, hmore, hfirst, hleft⟩ |
        ⟨call, deeds, rfl, hcall, hrest⟩
      · exact .inl ⟨more, hmore, .step hfirst, hleft⟩
      · exact .inr ⟨d :: call, deeds, rfl, .step hcall, hrest⟩

/-- Listeners are called one after the other with a notice, each when the one before has done all
it wants, and then what waited is carried out. -/
inductive InTurn (n : Notice) (rest : List (Command ε)) :
    List (Reaction ε) → List (Deed ι ε) → List (Command ε) → Prop
  /-- Everybody has been called. -/
  | all {deeds : List (Deed ι ε)} {left : List (Command ε)} (later : Carried rest deeds left) :
      InTurn n rest [] deeds left
  /-- The first listener has been called, and has done what it wants. -/
  | next {react : Reaction ε} {reacts : List (Reaction ε)} {call deeds : List (Deed ι ε)}
      {left : List (Command ε)} (first : Carried (react n) call [])
      (others : InTurn n rest reacts deeds left) :
      InTurn n rest (react :: reacts) (call ++ deeds) left
  /-- The first listener is at it, and the others wait. -/
  | during {react : Reaction ε} {reacts : List (Reaction ε)} {deeds : List (Deed ι ε)}
      {more : List (Command ε)} (first : Carried (react n) deeds more) (unfinished : more ≠ []) :
      InTurn n rest (react :: reacts) deeds (more ++ (reacts.flatMap fun r => r n) ++ rest)

/-- **The listeners of a notice are called one after the other.** -/
theorem Carried.inTurn {n : Notice} {rest left : List (Command ε)} {reacts : List (Reaction ε)}
    {deeds : List (Deed ι ε)}
    (h : Carried ((reacts.flatMap fun react => react n) ++ rest) deeds left) :
    InTurn n rest reacts deeds left := by
  induction reacts generalizing deeds with
  | nil => exact .all h
  | cons react reacts ih =>
    rw [List.flatMap_cons, List.append_assoc] at h
    rcases h.split rfl with ⟨more, hmore, hfirst, rfl⟩ | ⟨call, later, rfl, hcall, hothers⟩
    · rw [← List.append_assoc]
      exact .during hfirst hmore
    · exact .next hcall (ih hothers)

/-- When nothing is left to do, everybody has been called, and has done what it wants. -/
theorem InTurn.exists_calls {n : Notice} {rest left : List (Command ε)}
    {reacts : List (Reaction ε)} {deeds : List (Deed ι ε)} (h : InTurn n rest reacts deeds left)
    (hleft : left = []) :
    ∃ calls later, deeds = calls.flatten ++ later ∧
      List.Forall₂ (fun react call => Carried (react n) call []) reacts calls ∧
        Carried rest later [] := by
  induction h with
  | @all deeds left later =>
    subst hleft
    exact ⟨[], deeds, rfl, .nil, later⟩
  | @next react reacts call deeds left first others ih =>
    obtain ⟨calls, later, rfl, hcalls, hrest⟩ := ih hleft
    refine ⟨call :: calls, later, ?_, .cons first hcalls, hrest⟩
    rw [List.flatten_cons, List.append_assoc]
  | during first unfinished =>
    simp only [List.append_eq_nil_iff] at hleft
    exact absurd hleft.1.1 unfinished

section Histories

variable [DecidableEq ι]

/-- A party carries out what waits for it, with all that follows. -/
theorem carried_history (w : Parties ι ε) (p : ι) (schedule : List ι) :
    Carried (w.waiting p) (deedsOf p (w.history schedule)) ((w.run schedule).waiting p) := by
  refine history_induction (fun _ => True)
    (fun w deeds last => Carried (w.waiting p) (deedsOf p deeds) (last.waiting p))
    (fun _ _ _ => trivial) (fun w _ => .stop _) ?_ trivial schedule
  intro w q c rest deeds last _ hc ih
  rw [turn_waiting hc] at ih
  by_cases hq : q = p
  · subst hq
    rw [Function.update_self] at ih
    rw [hc, deedsOf, List.filter_cons_of_pos (by simp)]
    exact .step ih
  · rw [Function.update_of_ne (Ne.symm hq)] at ih
    rwa [deedsOf, List.filter_cons_of_neg (by simpa using hq)]

/-- After a deed its party does what follows from it, and then what waited. -/
theorem carried_after {w : Parties ι ε} {schedule : List ι} {before after : List (Deed ι ε)}
    {d : Deed ι ε} (h : w.history schedule = before ++ d :: after) :
    Carried (d.follows ++ d.before.waiting.tail) (deedsOf d.party after)
      ((w.run schedule).waiting d.party) := by
  obtain ⟨s, p, t, rest, rfl, -, hc, hd, rfl⟩ := exists_turn_of_history_eq h
  have hcarried := carried_history ((w.run s).turn p) p t
  rw [turn_waiting hc, Function.update_self, ← hd, ← run_cons, ← run_append] at hcarried
  have hparty : d.party = p := by rw [hd]
  have hwaiting : d.before.waiting = d.command :: rest := by rw [hd]; exact hc
  rw [hparty, hwaiting]
  exact hcarried

/-- Before a deed a handle is what the history has made of it. -/
theorem reflects_before {w : Parties ι ε} {j : Nat} (hw : w.handles[j]? = some .fresh)
    {schedule : List ι} {before after : List (Deed ι ε)} {d : Deed ι ε}
    (h : w.history schedule = before ++ d :: after) :
    ∃ x, d.before.handles[j]? = some x ∧ Reflects j before x := by
  obtain ⟨s, p, t, rest, rfl, hbefore, hc, hd, rfl⟩ := exists_turn_of_history_eq h
  obtain ⟨x, hx, hreflects⟩ := reflects_history hw s
  rw [hbefore] at hreflects
  exact ⟨x, by rw [hd]; exact hx, hreflects⟩

end Histories

/-! ### Closers -/

/-- The closer that a deed of a history installs, by its number. -/
def installedBy (j : Nat) (deeds : List (Deed ι ε)) (k : Nat) : Option (List (Command ε)) :=
  deeds[k]?.bind (Deed.installs? j)

/-- Of the deeds of a history, number `e` runs the closer that number `i` has installed: it closes
the handle, and no other closer was installed in between. -/
structure RunsCloser (j : Nat) (deeds : List (Deed ι ε)) (i e : Nat) : Prop where
  earlier : i < e
  installs : (installedBy j deeds i).isSome = true
  closes : ∃ d, deeds[e]? = some d ∧ d.closes j = true
  latest : ∀ k, i < k → k < e → installedBy j deeds k = none

/-- Between two deeds of a history nobody changes or takes the closer. -/
def Untouched (j : Nat) (deeds : List (Deed ι ε)) (i e : Nat) : Prop :=
  ∀ k d, i < k → k < e → deeds[k]? = some d → d.installs? j = none ∧ d.empties j = false

theorem Deed.closes_of_installs {j : Nat} {d : Deed ι ε} {closer : List (Command ε)}
    (h : d.installs? j = some closer) : d.closes j = false := by
  obtain ⟨p, before, c⟩ := d
  cases c with
  | closeWith k closer => simp [closes, asks]
  | _ => simp [installs?] at h

/-- A closer that is replaced has run before, or never runs. -/
theorem RunsCloser.lt_of_installed {j i e k : Nat} {deeds : List (Deed ι ε)}
    (h : RunsCloser j deeds i e) (hik : i < k) (hk : (installedBy j deeds k).isSome = true) :
    e < k := by
  obtain ⟨closer, hcloser⟩ := Option.isSome_iff_exists.mp hk
  rcases Nat.lt_trichotomy e k with hlt | rfl | hgt
  · exact hlt
  · obtain ⟨d, hd, hcloses⟩ := h.closes
    have hinstalls : d.installs? j = some closer := by simpa [installedBy, hd] using hcloser
    simp [Deed.closes_of_installs hinstalls] at hcloses
  · simp [h.latest k hik hgt] at hcloser

/-- **The closer that is left is the one installed last**, and nobody has changed or taken it. -/
theorem exists_installed_of_slot {j : Nat} {deeds : List (Deed ι ε)} {closer : List (Command ε)}
    (h : slot j deeds = some closer) :
    ∃ i, installedBy j deeds i = some closer ∧ Untouched j deeds i deeds.length := by
  induction deeds using List.reverseRecOn with
  | nil => cases h
  | append_singleton deeds d ih =>
    rw [slot_concat, Deed.leaves] at h
    cases hd : d.installs? j with
    | some installed =>
      -- Nothing comes after the last deed.
      refine ⟨deeds.length, ?_, ?_⟩
      · simpa [installedBy, hd] using h
      · intro k e hk hlast
        simp only [List.length_append, List.length_singleton] at hlast
        omega
    | none =>
      have hempties : d.empties j = false := by
        by_contra hempties
        simp [hd, hempties] at h
      have hslot : slot j deeds = some closer := by simpa [hd, hempties] using h
      obtain ⟨i, hi, huntouched⟩ := ih hslot
      have hlt : i < deeds.length := by
        by_contra hge
        simp [installedBy, List.getElem?_eq_none (Nat.le_of_not_lt hge)] at hi
      refine ⟨i, ?_, ?_⟩
      · rwa [installedBy, List.getElem?_append_left hlt]
      · intro k e hik hlast hk
        rcases Nat.lt_or_ge k deeds.length with hin | hout
        · rw [List.getElem?_append_left hin] at hk
          exact huntouched k e hik hin hk
        · simp only [List.length_append, List.length_singleton] at hlast
          obtain rfl : k = deeds.length := by omega
          obtain rfl : d = e := by simpa using hk
          exact ⟨hd, hempties⟩

theorem history_cut {deeds : List (Deed ι ε)} {e : Nat} {d : Deed ι ε} (h : deeds[e]? = some d) :
    deeds = deeds.take e ++ d :: deeds.drop (e + 1) := by
  obtain ⟨he, rfl⟩ := List.getElem?_eq_some_iff.mp h
  rw [List.getElem_cons_drop, List.take_append_drop]

section Closing

variable [DecidableEq ι] {w : Parties ι ε} {j : Nat} {schedule : List ι}

/-- What closes a handle runs the closer that was installed last. -/
theorem exists_installed_of_closes (hw : w.handles[j]? = some .fresh) {e : Nat} {d : Deed ι ε}
    (hd : (w.history schedule)[e]? = some d) (hcloses : d.closes j = true) :
    ∃ i, i < e ∧ installedBy j (w.history schedule) i = some d.follows ∧
      Untouched j (w.history schedule) i e := by
  obtain ⟨x, hx, hreflects⟩ := reflects_before hw (history_cut hd)
  have hslot := hreflects.closer.symm.trans (d.closer_of_closes hx hcloses)
  obtain ⟨i, hi, huntouched⟩ := exists_installed_of_slot hslot
  have hlength : ((w.history schedule).take e).length = e := by
    have he := (List.getElem?_eq_some_iff.mp hd).1
    rw [List.length_take]
    omega
  rw [hlength] at huntouched
  have hlt : i < e := by
    by_contra hge
    rw [installedBy, List.getElem?_take, if_neg hge] at hi
    cases hi
  refine ⟨i, hlt, ?_, ?_⟩
  · simpa [installedBy, List.getElem?_take, hlt] using hi
  · intro k y hik hke hy
    exact huntouched k y hik hke (by simpa [List.getElem?_take, hke] using hy)

/-- Nobody changes or takes a closer before it runs. -/
theorem RunsCloser.untouched {i e : Nat} (hw : w.handles[j]? = some .fresh)
    (h : RunsCloser j (w.history schedule) i e) : Untouched j (w.history schedule) i e := by
  obtain ⟨d, hd, hcloses⟩ := h.closes
  obtain ⟨m, hm, hinstalled, huntouched⟩ := exists_installed_of_closes hw hd hcloses
  -- What was installed last is what was installed as number `i`.
  rcases Nat.lt_trichotomy i m with hlt | rfl | hgt
  · simp [h.latest m hlt hm] at hinstalled
  · exact huntouched
  · obtain ⟨closer, hcloser⟩ := Option.isSome_iff_exists.mp h.installs
    obtain ⟨y, hy, hinstalls⟩ := Option.bind_eq_some_iff.mp hcloser
    simp [(huntouched i y hgt h.earlier hy).1] at hinstalls

/-- A closer that has run is gone. -/
theorem RunsCloser.not_later {i e e' : Nat} (hw : w.handles[j]? = some .fresh)
    (h : RunsCloser j (w.history schedule) i e) (h' : RunsCloser j (w.history schedule) i e') :
    ¬ e < e' := by
  intro hlt
  obtain ⟨d, hd, hcloses⟩ := h.closes
  have hempties := (h'.untouched hw e d h.earlier hlt hd).2
  simp [Deed.empties, hcloses] at hempties

/-- A closer that is there when the handle ends has run before, or never runs. -/
theorem RunsCloser.lt_of_ended {i e k : Nat} {d : Deed ι ε} (hw : w.handles[j]? = some .fresh)
    (h : RunsCloser j (w.history schedule) i e) (hik : i < k)
    (hd : (w.history schedule)[k]? = some d) (hends : d.tells? j = some .closed)
    (hfirst : ¬ ended j ((w.history schedule).take k)) : e < k := by
  rcases Nat.lt_trichotomy e k with hlt | rfl | hgt
  · exact hlt
  · obtain ⟨y, hy, hcloses⟩ := h.closes
    obtain rfl : d = y := by simpa [hd] using hy
    simp [Deed.closes_of_tells hends] at hcloses
  · obtain ⟨x, hx, hreflects⟩ := reflects_before hw (history_cut hd)
    have hopen : x.closed = false := by
      by_contra hclosed
      exact hfirst (hreflects.closed.mp (Bool.of_not_eq_false hclosed))
    have hempties := (h.untouched hw k d hik hgt hd).2
    simp [Deed.empties, Deed.notice?_of_tells hx hends fun _ => hopen] at hempties

end Closing

/-! ### The laws of a handle -/

section Laws

variable [DecidableEq ι]

/-- After a deed, the party that did it calls listeners one after the other with a notice, and goes
on with what waited. -/
def CallsInTurn (w : Parties ι ε) (schedule : List ι) (d : Deed ι ε) (after : List (Deed ι ε))
    (n : Notice) (reacts : List (Reaction ε)) : Prop :=
  InTurn n d.before.waiting.tail reacts (deedsOf d.party after) ((w.run schedule).waiting d.party)

/-- The laws of a handle in the turns of a schedule. -/
structure KeepsRegistry (j : Nat) (w : Parties ι ε) (schedule : List ι) : Prop where
  /-- As long as nobody lets go of it the handle is held, and commands reach it. -/
  held : ∀ s t, schedule = s ++ t → (∀ d ∈ w.history s, d.command ≠ .release j) →
    ((w.run s).shared.held? j).isSome = true
  /-- A notice other than the end calls the listeners of its kind that were registered before, each
  once and in the order of their registration. -/
  told : ∀ before d after n, w.history schedule = before ++ d :: after → d.tells? j = some n →
    n ≠ .closed → CallsInTurn w schedule d after n (listenersFor j n.kind before)
  /-- The first end calls the listeners for the end that were registered before, each once and in
  the order of their registration. -/
  firstEnd : ∀ before d after, w.history schedule = before ++ d :: after →
    d.tells? j = some .closed → ¬ ended j before →
      CallsInTurn w schedule d after .closed (listenersFor j .closed before)
  /-- A later end calls nobody. -/
  laterEnd : ∀ before d after, w.history schedule = before ++ d :: after →
    d.tells? j = some .closed → ended j before → CallsInTurn w schedule d after .closed []
  /-- At any time the handle says that it has ended if it has been told its end, and only then. -/
  isClosed : ∀ s t, schedule = s ++ t → ∃ x, (w.run s).handles[j]? = some x ∧
    (x.closed = true ↔ ended j (w.history s))
  /-- What closes the handle runs the closer that was installed last. -/
  runs : ∀ before d after, w.history schedule = before ++ d :: after → d.closes j = true →
    ∃ i, RunsCloser j (w.history schedule) i before.length ∧
      installedBy j (w.history schedule) i = some d.follows ∧
      Carried (d.follows ++ d.before.waiting.tail) (deedsOf d.party after)
        ((w.run schedule).waiting d.party)
  /-- Asking without anything to close does nothing. -/
  idle : ∀ d ∈ w.history schedule, d.asks j = true → d.closes j = false → d.follows = []
  /-- A closer runs at most once. -/
  once : ∀ i e e', RunsCloser j (w.history schedule) i e →
    RunsCloser j (w.history schedule) i e' → e = e'
  /-- A closer that is replaced does not run any more. -/
  replaced : ∀ i e k, RunsCloser j (w.history schedule) i e → i < k →
    (installedBy j (w.history schedule) k).isSome = true → e < k
  /-- A closer that is there when the handle ends does not run any more. -/
  dropped : ∀ i e k d, RunsCloser j (w.history schedule) i e → i < k →
    (w.history schedule)[k]? = some d → d.tells? j = some .closed →
      ¬ ended j ((w.history schedule).take k) → e < k

variable {w : Parties ι ε} {j : Nat} {schedule : List ι} {before after : List (Deed ι ε)}
  {d : Deed ι ε} {n : Notice}

/-- A notice calls those who are registered for it, unless it is the end once more. -/
theorem callsInTurn_of_tells (hw : w.handles[j]? = some .fresh)
    (h : w.history schedule = before ++ d :: after) (hn : d.tells? j = some n)
    (hfirst : n = .closed → ¬ ended j before) :
    CallsInTurn w schedule d after n (listenersFor j n.kind before) := by
  obtain ⟨x, hx, hreflects⟩ := reflects_before hw h
  have hminds : x.Minds n := by
    intro hclosed
    by_contra hx
    exact hfirst hclosed (hreflects.closed.mp (Bool.of_not_eq_false hx))
  have hfollows : d.follows = (listenersFor j n.kind before).flatMap fun react => react n := by
    rw [Deed.follows_of_tells hx hn, Handle.notify_of_minds hminds, hreflects.reactions]
  have hcarried := carried_after h
  rw [hfollows] at hcarried
  exact hcarried.inTurn

/-- The end calls nobody when it is told once more. -/
theorem callsInTurn_of_ended (hw : w.handles[j]? = some .fresh)
    (h : w.history schedule = before ++ d :: after) (hn : d.tells? j = some .closed)
    (hended : ended j before) : CallsInTurn w schedule d after .closed [] := by
  obtain ⟨x, hx, hreflects⟩ := reflects_before hw h
  have hminds : ¬ x.Minds .closed := by
    intro hminds
    have hclosed := hreflects.closed.mpr hended
    rw [hminds rfl] at hclosed
    cases hclosed
  have hfollows : d.follows = [] := by
    rw [Deed.follows_of_tells hx hn, Handle.notify_of_not_minds hminds]
  have hcarried := carried_after h
  rw [hfollows] at hcarried
  exact .all hcarried

/-- A handle that was fresh keeps the laws of a handle. -/
theorem keepsRegistry_of_fresh (hw : w.handles[j]? = some .fresh) (schedule : List ι) :
    KeepsRegistry j w schedule where
  held s t _ hkept := by
    obtain ⟨x, hx, hreflects⟩ := reflects_history hw s
    rw [Subscriptions.held?_eq_some _ j hx, if_neg (hreflects.owned hkept)]
    rfl
  told before d after n h hn hne := callsInTurn_of_tells hw h hn fun hclosed => absurd hclosed hne
  firstEnd before d after h hn hfirst := callsInTurn_of_tells hw h hn fun _ => hfirst
  laterEnd before d after h hn hended := callsInTurn_of_ended hw h hn hended
  isClosed s t _ := by
    obtain ⟨x, hx, hreflects⟩ := reflects_history hw s
    exact ⟨x, hx, hreflects.closed⟩
  runs before d after h hcloses := by
    have hd : (w.history schedule)[before.length]? = some d := by rw [h]; simp
    obtain ⟨i, hi, hinstalled, huntouched⟩ := exists_installed_of_closes hw hd hcloses
    refine ⟨i, ⟨hi, by simp [hinstalled], ⟨d, hd, hcloses⟩, ?_⟩, hinstalled, carried_after h⟩
    intro k hik hk
    rw [installedBy, Option.bind_eq_none_iff]
    intro y hy
    exact (huntouched k y hik hk hy).1
  idle d hd hasks hcloses := by
    obtain ⟨before, after, h⟩ := List.append_of_mem hd
    obtain ⟨x, hx, -⟩ := reflects_before hw h
    rw [Deed.follows_of_asks hx hasks, hcloses]
    rfl
  once i e e' h h' := by
    have hle := h.not_later hw h'
    have hge := h'.not_later hw h
    omega
  replaced i e k h hik hk := h.lt_of_installed hik hk
  dropped i e k d h hik hd hends hfirst := h.lt_of_ended hw hik hd hends hfirst

/-- **A handle keeps its laws from its making**, whatever anybody does with it. -/
theorem keepsRegistry_of_new_handle (s : Subscriptions ε) (calls : ι → List (Command ε))
    (schedule : List ι) : KeepsRegistry s.make.1 (s.make.2.among calls) schedule :=
  keepsRegistry_of_fresh (by simp [Subscriptions.make, Subscriptions.among]) schedule

/-- A listener that registers another one, ends the handle and asks it to close, all while it is
called: the other one is called from the next message on, and the closer is gone. -/
example :
    let react : Reaction Nat := fun _ =>
      [.write 1, .listen 0 .message fun _ => [.write 2], .notify 0 .closed, .close 0]
    let calls : List (Command Nat) :=
      [.listen 0 .message react, .listen 0 .closed fun _ => [.write 3], .closeWith 0 [.write 4],
        .notify 0 (.message .null), .notify 0 (.message .null)]
    ((Subscriptions.none.make.2.among fun _ : Unit => calls).run (List.replicate 20 ())).written =
      [1, 3, 1, 2] := by
  rfl

end Laws

end Parties

end FieldQuery
