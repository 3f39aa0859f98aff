/-
**Listening for the end.**

A caller gets a handle and then begins to listen, while a session goes on at the other side.  The
session tells the end once, and the relay passes it on once; so a listener for the end is called
once, if it was registered before the end came to the inner handle.  One that comes later is not
called at all: registering does not look at whether the handle has ended.  A session that fails
before the caller had a turn ends the handle before anybody can listen to it, and who waits for the
notice then waits for ever.

Listeners are told apart by their numbers in the order of their registration, for nobody stops
listening.

Main definitions:

* `Subscriptions.audience` — those who listen to a handle;
* `Parties.Deed.registers`, `Parties.Deed.calls` — a deed that adds a listener, and one that calls
  it;
* `Relay.TellsEnd` — what a relay does for those who listen for the end;
* `Session.course` — all that a session does, with a connection or without.

Main results:

* `Relay.Tied.audience_run` — nobody stops listening;
* `Relay.Tied.count_calls` — who listens for the end is called once;
* `Relay.Tied.not_called` — who has not begun to listen is not called;
* `Relay.Tied.told_in_time` — **who listens for the end in time is told it once**, and who comes
  later is not;
* `Relay.Tied.end_reaches` — **at rest the end has been passed on**;
* `Program.flatten_sessionStory` — the session of the program goes such a course;
* `Client.end_told_once_in_time` — the same of a session and a caller;
* `Client.end_missed_by_late_listener` — **a listener can miss the end**.
-/

import FieldQuery.Proofs.Subscription.Conversation
import FieldQuery.Proofs.Subscription.Subscribing

set_option autoImplicit false

namespace FieldQuery

open Parties

variable {ε : Type}

/-! ### Listeners by number -/

/-- Those who listen to a handle, in the order in which they began. -/
def Subscriptions.audience (j : Nat) (s : Subscriptions ε) : List (Notice.Kind × Reaction ε) :=
  ((s.held? j).map Handle.listeners).getD []

/-- What a listener does is part of what a notice of its kind brings about. -/
theorem Handle.reactions_of_listener {h : Handle ε} {k : Nat} {kind : Notice.Kind}
    {react : Reaction ε} (hk : h.listeners[k]? = some (kind, react)) {n : Notice}
    (hn : kind = n.kind) : ∃ before after, h.reactions n = before ++ react n ++ after := by
  have hmem : (kind, react) ∈ h.listeners.filter fun l => l.1 = n.kind :=
    List.mem_filter.mpr ⟨List.mem_of_getElem? hk, by simpa using hn⟩
  obtain ⟨earlier, later, heq⟩ := List.append_of_mem hmem
  exact ⟨_, _, by rw [reactions, heq, List.flatMap_append, List.flatMap_cons, ← List.append_assoc]⟩

theorem Notice.kind_eq_closed {n : Notice} : .closed = n.kind ↔ n = .closed := by
  cases n <;> simp [kind]

namespace Parties

section Deeds

variable {ι : Type}

/-- Whether a deed adds a listener of a kind to a handle, with a number. -/
def Deed.registers (j k : Nat) (kind : Notice.Kind) (d : Deed ι ε) : Bool :=
  (d.registers? j).any fun l => l.1 = k ∧ l.2.1 = kind

/-- Whether a deed calls a listener of a handle, by its number: it gives a notice of the kind for
which that one listens. -/
def Deed.calls (j k : Nat) (d : Deed ι ε) : Bool :=
  (d.notice? j).any fun n => (d.before.audience j)[k]?.any fun l => l.1 = n.kind

/-- How often a listener of a handle is called in a history. -/
def callCount (j k : Nat) (deeds : List (Deed ι ε)) : Nat := deeds.countP (Deed.calls j k)

theorem Deed.registers_iff {j k : Nat} {kind : Notice.Kind} {d : Deed ι ε} :
    d.registers j k kind = true ↔ ∃ react, d.registers? j = some (k, kind, react) := by
  rw [registers]
  cases d.registers? j with
  | none => simp
  | some l =>
    obtain ⟨number, listensFor, react⟩ := l
    simp

variable {w : Parties ι ε} {p : ι} {c : Command ε} {j k : Nat} {x : Handle ε}

theorem audience_of_held (hx : w.shared.held? j = some x) :
    w.shared.audience j = x.listeners := by
  simp [Subscriptions.audience, hx]

/-- Who listens for the end is called when the handle is told that it has ended. -/
theorem calls_of_closed {react : Reaction ε}
    (hk : (w.shared.audience j)[k]? = some (.closed, react)) :
    Deed.calls j k ⟨p, w.view p, c⟩ =
      decide (Deed.notice? j ⟨p, w.view p, c⟩ = some .closed) := by
  have hview : ((w.view p).audience j)[k]? = some (.closed, react) := hk
  rw [Deed.calls]
  cases Deed.notice? j ⟨p, w.view p, c⟩ with
  | none => rfl
  | some n => simp [hview, Notice.kind_eq_closed]

end Deeds

end Parties

/-! ### Who is called -/

namespace Relay

section Audience

variable {ι : Type} [DecidableEq ι] {r : Relay ε} {o i o' i' : Handle ε} {w : Parties ι ε}
  {c : Command ε} {more : List (Command ε)} {k : Nat} {kind : Notice.Kind}
  {react : Reaction ε}

theorem Move.listeners_prefix (hm : Move r o i c o' i' more) : i.listeners <+: i'.listeners := by
  cases hm with
  | listen kind react uses => exact List.prefix_append _ _
  | tellInner n => simp
  | _ => exact List.prefix_rfl

/-- Nobody stops listening. -/
theorem Tied.audience_turn (w : Parties ι ε) (p : ι) (h : Tied r w) :
    w.shared.audience r.inner <+: (w.turn p).shared.audience r.inner := by
  obtain ⟨o, i, hj⟩ := h
  cases hc : w.waiting p with
  | nil => rw [turn_of_idle hc]
  | cons c rest =>
    obtain ⟨o', i', more, hm, -, hj'⟩ := hj.turn hc
    rw [audience_of_held hj.held_inner, audience_of_held hj'.held_inner]
    exact hm.listeners_prefix

theorem Tied.audience_run (h : Tied r w) (schedule : List ι) :
    w.shared.audience r.inner <+: (w.run schedule).shared.audience r.inner := by
  have keep : ∀ (w' : Parties ι ε) (p : ι),
      (Tied r w' ∧ w.shared.audience r.inner <+: w'.shared.audience r.inner) →
        Tied r (w'.turn p) ∧ w.shared.audience r.inner <+: (w'.turn p).shared.audience r.inner := by
    rintro w' p ⟨hw', hprefix⟩
    exact ⟨hw'.turn w' p, hprefix.trans (hw'.audience_turn w' p)⟩
  exact (inv_run keep ⟨h, List.prefix_rfl⟩ schedule).2

/-- A listener keeps its number. -/
theorem Tied.listener_turn (w : Parties ι ε) (p : ι)
    (h : Tied r w ∧ (w.shared.audience r.inner)[k]? = some (kind, react)) :
    Tied r (w.turn p) ∧ ((w.turn p).shared.audience r.inner)[k]? = some (kind, react) := by
  obtain ⟨h, hk⟩ := h
  obtain ⟨new, hnew⟩ := h.audience_turn w p
  refine ⟨h.turn w p, ?_⟩
  rw [← hnew, List.getElem?_append_left (List.getElem?_eq_some_iff.mp hk).1, hk]

/-- Who is called does what its reaction to the notice is. -/
theorem Tied.follows_of_calls (h : Tied r w)
    (hk : (w.shared.audience r.inner)[k]? = some (kind, react)) {schedule : List ι} {d : Deed ι ε}
    (hd : d ∈ w.history schedule) (hcalls : d.calls r.inner k = true) :
    ∃ n, d.notice? r.inner = some n ∧ kind = n.kind ∧
      ∃ before after, d.follows = before ++ react n ++ after := by
  obtain ⟨w', rest, ⟨-, hk'⟩, -, hbefore⟩ :=
    exists_of_mem_history Tied.listener_turn ⟨h, hk⟩ hd
  have hlistens : (d.before.audience r.inner)[k]? = some (kind, react) := by
    rw [hbefore]
    exact hk'
  cases hn : d.notice? r.inner with
  | none => simp [Deed.calls, hn] at hcalls
  | some n =>
    have hkind : kind = n.kind := by simpa [Deed.calls, hn, hlistens] using hcalls
    obtain ⟨x, hx, hfollows⟩ := h.reaches hd hn
    have hlisteners : x.listeners[k]? = some (kind, react) := by
      simpa [Subscriptions.audience, hx] using hlistens
    rw [hfollows]
    exact ⟨n, rfl, hkind, Handle.reactions_of_listener hlisteners hkind⟩

/-- Who listens for the end is called once, when the handle ends. -/
theorem Tied.count_calls (h : Tied r w)
    (hk : (w.shared.audience r.inner)[k]? = some (.closed, react)) (schedule : List ι) :
    callCount r.inner k (w.history schedule) + running r.inner (w.run schedule) =
      running r.inner w := by
  have step : ∀ (w : Parties ι ε) (p : ι) (c : Command ε) (rest : List (Command ε)),
      (Tied r w ∧ (w.shared.audience r.inner)[k]? = some (.closed, react)) →
      w.waiting p = c :: rest →
      (Deed.calls r.inner k ⟨p, w.view p, c⟩).toNat + running r.inner (w.turn p) =
        running r.inner w := by
    rintro w p c rest ⟨⟨o, i, hj⟩, hk⟩ hc
    rw [calls_of_closed hk]
    exact hj.running_turn hc (.inr rfl)
  refine Nat.le_antisymm (count_add_le (running r.inner) Tied.listener_turn ?_ ⟨h, hk⟩ schedule)
    (le_count_add (running r.inner) Tied.listener_turn ?_ ⟨h, hk⟩ schedule)
  · exact fun w p c rest hw hc => Nat.le_of_eq (step w p c rest hw hc)
  · exact fun w p c rest hw hc => Nat.le_of_eq (step w p c rest hw hc).symm

/-- Who has not begun to listen is not called. -/
theorem Tied.not_called (h : Tied r w) {schedule : List ι}
    (hk : ((w.run schedule).shared.audience r.inner).length ≤ k) :
    ∀ d ∈ w.history schedule, d.calls r.inner k = false := by
  intro d hd
  obtain ⟨before, p, after, rest, rfl, -, hdeed⟩ := exists_turn_of_mem_history hd
  have hlater := (inv_run Tied.turn h before).audience_run (p :: after)
  rw [← run_append] at hlater
  have hnone : ((w.run before).shared.audience r.inner)[k]? = none :=
    List.getElem?_eq_none (hlater.length_le.trans hk)
  have hview : ((w.run before).view p).audience r.inner =
      (w.run before).shared.audience r.inner := rfl
  rw [hdeed]
  simp [Deed.calls, hview, hnone]

/-- A listener that is added comes last, and nobody is called for it. -/
theorem Joined.audience_of_registers (h : Joined r o i w) {p : ι} {rest : List (Command ε)}
    (hc : w.waiting p = c :: rest)
    (hk : Deed.registers? r.inner ⟨p, w.view p, c⟩ = some (k, kind, react)) :
    Deed.notice? r.inner ⟨p, w.view p, c⟩ = none ∧
      (w.shared.audience r.inner).length = k ∧
      ((w.turn p).shared.audience r.inner)[k]? = some (kind, react) := by
  obtain ⟨o', i', more, hm, -, hj⟩ := h.turn hc
  rw [notice?_of_held h.held_inner, audience_of_held h.held_inner, audience_of_held hj.held_inner]
  rw [registers?_of_held h.held_inner] at hk
  cases hm with
  | listen kind react uses =>
    obtain ⟨rfl, rfl, rfl⟩ := by simpa using hk
    exact ⟨rfl, rfl, by simp [Handle.listen]⟩
  | _ => cases hk

/-- **Who listens for the end in time is told it once**, when the handle ends, and reacts to it;
who begins to listen after the end is not told. -/
theorem Tied.told_in_time (h : Tied r w) {schedule : List ι} {d : Deed ι ε}
    (hd : d ∈ w.history schedule) (hk : d.registers? r.inner = some (k, .closed, react)) :
    callCount r.inner k (w.history schedule) + running r.inner (w.run schedule) =
        (d.before.closed? r.inner == some false).toNat ∧
      ∀ e ∈ w.history schedule, e.calls r.inner k = true →
        ∃ before after, e.follows = before ++ react .closed ++ after := by
  obtain ⟨before, p, after, rest, rfl, hc, hdeed⟩ := exists_turn_of_mem_history hd
  have hbefore : Tied r (w.run before) := inv_run Tied.turn h before
  have hafter : Tied r ((w.run before).turn p) := hbefore.turn _ p
  obtain ⟨o, i, hj⟩ := hbefore
  rw [hdeed] at hk
  obtain ⟨hnotice, hlength, hlistens⟩ := hj.audience_of_registers hc hk
  -- The listener is called neither before its registration nor by it.
  have hearlier := h.not_called hlength.le
  have hitself : d.calls r.inner k = false := by
    rw [hdeed]
    simp [Deed.calls, hnotice]
  have hhistory : w.history (before ++ p :: after) =
      w.history before ++ d :: ((w.run before).turn p).history after := by
    rw [history_append, history_of_waiting hc, ← hdeed]
  have hnone : (w.history before).countP (Deed.calls r.inner k) = 0 :=
    List.countP_eq_zero.mpr fun e he => by simp [hearlier e he]
  have hrunning : running r.inner ((w.run before).turn p) =
      (d.before.closed? r.inner == some false).toNat := by
    have hstep := hj.running_turn hc (.inr rfl)
    rw [hnotice] at hstep
    have hsame : running r.inner ((w.run before).turn p) = running r.inner (w.run before) := by
      simpa using hstep
    rw [hdeed]
    exact hsame
  constructor
  · have hlater := hafter.count_calls hlistens after
    rw [hrunning] at hlater
    rw [callCount, hhistory, List.countP_append, List.countP_cons, hnone, run_append, run_cons]
    simpa [hitself, callCount] using hlater
  · intro e he hcalls
    rw [hhistory] at he
    rcases List.mem_append.mp he with he | he
    · simp [hearlier e he] at hcalls
    · rcases List.mem_cons.mp he with rfl | he
      · simp [hitself] at hcalls
      · obtain ⟨n, -, hn, hfollows⟩ := hafter.follows_of_calls hlistens he hcalls
        obtain rfl := Notice.kind_eq_closed.mp hn
        exact hfollows

/-- What a relay does for those who listen for the end, in the turns of a schedule. -/
structure TellsEnd (r : Relay ε) (w : Parties ι ε) (schedule : List ι) : Prop where
  /-- Who begins to listen before the end is called once, when it comes. -/
  inTime : ∀ d ∈ w.history schedule, ∀ k react, d.registers? r.inner = some (k, .closed, react) →
    d.before.closed? r.inner = some false →
      callCount r.inner k (w.history schedule) =
        if (w.run schedule).shared.closed? r.inner = some true then 1 else 0
  /-- Who begins to listen after the end is not called. -/
  late : ∀ d ∈ w.history schedule, ∀ k react, d.registers? r.inner = some (k, .closed, react) →
    d.before.closed? r.inner = some true → callCount r.inner k (w.history schedule) = 0
  /-- Who is called reacts. -/
  heard : ∀ d ∈ w.history schedule, ∀ k react, d.registers? r.inner = some (k, .closed, react) →
    ∀ e ∈ w.history schedule, e.calls r.inner k = true →
      ∃ before after, e.follows = before ++ react .closed ++ after

theorem Tied.tellsEnd (h : Tied r w) (schedule : List ι) : TellsEnd r w schedule where
  inTime d hd k react hk hopen := by
    have hcount := (h.told_in_time hd hk).1
    obtain ⟨o, i, hj⟩ := inv_run Tied.turn h schedule
    rw [running_of_held hj.held_inner, hopen] at hcount
    rw [Subscriptions.closed?, hj.held_inner]
    cases hi : i.closed <;> simpa [hi] using hcount
  late d hd k react hk hclosed := by
    have hcount := (h.told_in_time hd hk).1
    rw [hclosed] at hcount
    exact Nat.eq_zero_of_add_eq_zero_right hcount
  heard d hd k react hk := (h.told_in_time hd hk).2

end Audience

/-! ### The end is passed on -/

section Ending

variable {ι : Type} [DecidableEq ι] {r : Relay ε} {w : Parties ι ε} {q : ι}

/-- Until the outer handle has ended, whoever has its end to tell has still to do so. -/
theorem Tied.ended_turn (w : Parties ι ε) (p : ι)
    (h : Tied r w ∧ (running r.outer w = 0 ∨ .notify r.outer .closed ∈ w.waiting q)) :
    Tied r (w.turn p) ∧
      (running r.outer (w.turn p) = 0 ∨ .notify r.outer .closed ∈ (w.turn p).waiting q) := by
  obtain ⟨⟨o, i, hj⟩, hend⟩ := h
  refine ⟨Tied.turn w p ⟨o, i, hj⟩, ?_⟩
  cases hc : w.waiting p with
  | nil => rwa [turn_of_idle hc]
  | cons c rest =>
    have hstep := hj.running_turn hc (.inl rfl)
    rcases hend with hend | hend
    · left
      omega
    · by_cases hqp : q = p
      · subst hqp
        rw [turn_waiting hc, Function.update_self]
        rcases List.mem_cons.mp (hc ▸ hend) with rfl | hrest
        · -- The end is told now, or it was told before.
          left
          rw [notice?_of_held hj.held_outer, running_of_held hj.held_outer] at hstep
          cases ho : o.closed <;> simp [Handle.Minds, ho] at hstep <;> omega
        · exact .inr (List.mem_append_right _ hrest)
      · right
        rwa [turn_waiting hc, Function.update_of_ne hqp]

/-- **At rest the end has been passed on**, if anybody had it to tell. -/
theorem Tied.end_reaches (h : Tied r w) (hf : Fresh r w)
    (hq : .notify r.outer .closed ∈ w.waiting q) {schedule : List ι}
    (hrest : (w.run schedule).AtRest) : (w.run schedule).shared.closed? r.inner = some true := by
  have hfaithful := h.faithful hf schedule
  have hended : running r.outer (w.run schedule) = 0 := by
    have hend := (inv_run Tied.ended_turn ⟨h, .inr hq⟩ schedule).2
    rw [hrest q] at hend
    exact hend.resolve_right List.not_mem_nil
  have hcount := h.count_running schedule (.inl rfl)
  rw [hended, hf.running.1] at hcount
  have hpos : 0 < (w.history schedule).countP fun d => d.notice? r.outer = some .closed := by
    omega
  obtain ⟨d, hd, hclosed⟩ := List.countP_pos_iff.mp hpos
  -- What the outer handle was told has reached the inner one.
  have houter : .closed ∈ notices r.outer d.party (w.history schedule) :=
    List.mem_filterMap.mpr ⟨d, List.mem_filter.mpr ⟨hd, by simp⟩, by simpa using hclosed⟩
  have hinner : .closed ∈ notices r.inner d.party (w.history schedule) := by
    have horder := hfaithful.inOrder d.party
    rw [hrest d.party] at horder
    have hmem := List.mem_map_of_mem (f := fun n => n.decodedBy r.decode) houter
    rw [horder] at hmem
    simpa [Errand.notices, errand?, Notice.decodedBy] using hmem
  obtain ⟨e, he, hnotice⟩ := List.mem_filterMap.mp hinner
  rw [hfaithful.ends, Option.some.injEq, List.any_eq_true]
  exact ⟨e, (List.mem_filter.mp he).1, by simpa using hnotice⟩

end Ending

end Relay

/-! ### Sessions and callers -/

namespace Session

/-- All that a session does: what it does about arrivals, or, without a connection, failing. -/
def course (request : Request) : Except Failure (List Arrival) → List Effect
  | .ok as => (story request as).flatten
  | .error f => failing f

/-- Every session tells the end. -/
theorem closed_mem_course (request : Request) (connection : Except Failure (List Arrival)) :
    .tell .closed ∈ course request connection := by
  cases connection with
  | error f => simp [course, failing, farewell]
  | ok as =>
    have hends : (ending? false (as ++ [.closing])).isSome = true :=
      ending?_isSome_of_closing false (by simp)
    obtain ⟨e, he⟩ := Option.isSome_iff_exists.mp hends
    have hlast : .tell .closed ∈ lastDeeds (ending? false (as ++ [.closing])) := by
      rw [he]
      cases e <;> simp [lastDeeds, Ending.deeds]
    have hdeeds := deeds_eq request (as ++ [.closing])
    rw [course, story]
    rw [deeds] at hdeeds
    rw [hdeeds]
    exact List.mem_append_right _ hlast

theorem notify_mem_commands {outer : Nat} {report : Failure → List (Command ε)}
    {effects : List Effect} {n : Notice} (h : .tell n ∈ effects) :
    .notify outer n ∈ commands outer report effects :=
  List.mem_flatMap.mpr ⟨_, h, List.mem_singleton_self _⟩

end Session

/-- What a session of the program has to deal with: what arrives, or the failure to connect. -/
def Program.connection {m : Type → Type} [Monad m] (w : World m) (e : SocketEndpoint) :
    m (Except Failure (List Arrival)) :=
  match e.handshake with
  | .error f => pure (.error f)
  | .ok h => Except.mapError Failure.unconnected <$> w.connect h

/-- The session of the program does all that a session does. -/
theorem Program.flatten_sessionStory {m : Type → Type} [Monad m] [LawfulMonad m] (w : World m)
    (e : SocketEndpoint) (query : String) :
    List.flatten <$> sessionStory w e query =
      Session.course (e.document query) <$> connection w e := by
  rw [sessionStory, connection]
  cases e.handshake with
  | error f => simp [Session.course]
  | ok h =>
    simp only [map_bind, Functor.map_map]
    rw [map_eq_pure_bind]
    congr 1
    funext arrived
    cases arrived <;> simp [Session.course, Except.mapError]

/-- The commands of a session, and those of a caller. -/
def sides (session caller : List (Command ε)) : Bool → List (Command ε)
  | true => session
  | false => caller

/-- **Who listens in time is told the end once.**  Between a session that goes its course and a
caller that does what callers do, in whatever order they have their turns, a listener for the end
is called once if it was registered before the end reached the handle of the caller, and never if it
came later; and if both have a turn again and again, the end reaches that handle. -/
theorem Client.end_told_once_in_time {α : Type} {c : Client} {sel : SelectionSet}
    {q : CompiledQuery} (hq : c.compile .subscription sel = .ok q) {carry : Carrier ε α}
    {closer : String → Nat → List (Command ε)} (hcarry : carry.Leaves closer)
    (hcloser : ∀ text j, ∀ x ∈ closer text j, x.IsFeed j) {s : Subscriptions ε}
    (hs : s.waiting = []) {report : Failure → List (Command ε)}
    (hreport : ∀ f, ∀ x ∈ report f, x.IsFeed s.handles.length) :
    let r : Relay ε := .next s (c.decode .subscription sel) (closer q.text s.handles.length)
      (hcloser q.text s.handles.length)
    (∃ kept, c.subscribe (some carry) sel s = (.ok (r.inner, kept), s.joined r)) ∧
      ∀ (request : Request) (connection : Except Failure (List Arrival))
        (caller : List (Command ε)), (∀ x ∈ caller, x.IsUse r.inner) →
        let session := Session.commands r.outer report (Session.course request connection)
        let w := (s.joined r).among (sides session caller)
        (∀ schedule, Relay.TellsEnd r w schedule) ∧
          ∀ order, Fair order → ∃ n, (w.run (firstTurns order n)).AtRest ∧
            (w.run (firstTurns order n)).shared.closed? r.inner = some true := by
  intro r
  refine ⟨subscribe_eq hq hcarry hs _, ?_⟩
  intro request connection caller huses session w
  have hcalls : ∀ p, ∀ x ∈ sides session caller p, r.IsCall x := by
    rintro (_ | _) x hx
    · exact .inr (huses x hx)
    · exact .inl (Session.feeds_commands hreport _ x hx)
  have htied : Relay.Tied r w := ⟨_, _, Subscriptions.joined_among rfl rfl hcalls⟩
  have hfresh : Relay.Fresh r w := Subscriptions.fresh_among rfl rfl hcalls
  refine ⟨htied.tellsEnd, fun order fair => ?_⟩
  obtain ⟨n, hrest⟩ := htied.exists_rest fair
  have hend : .notify r.outer .closed ∈ w.waiting true :=
    Session.notify_mem_commands (Session.closed_mem_course request connection)
  exact ⟨n, hrest, htied.end_reaches hfresh hend hrest⟩

/-! ### Ticks that nobody sends -/

/-- What is done about a session for ticks that has failed. -/
def tickReport (f : Failure) : List (Command Output) :=
  [.write (Program.sessionOutput "wss://ticks.test" f)]

/-- A session for ticks that reaches nobody, and a caller that listens as the program does. -/
def unreachedTicks : Parties Bool Output :=
  (Subscriptions.none.joined tickRelay).among
    (sides (Session.commands 0 tickReport
      (Session.course ⟨"subscription { tick }", .empty, none⟩ (.error (.unconnected .unreachable))))
      (Program.listeners 1))

/-- A schedule in which the caller has begun to listen when the session fails. -/
def listeningFirst : List Bool := List.replicate 4 false ++ List.replicate 16 true

/-- A schedule in which the session has failed when the caller begins to listen. -/
def failingFirst : List Bool := List.replicate 16 true ++ List.replicate 4 false

/-- Who listens for the end of the ticks before the session fails is told it once. -/
theorem Client.end_told_to_early_listener :
    tickClient.compile .subscription ticks = .ok ⟨"subscription \x7b tick \x7d", .empty⟩ ∧
      tickCarrier.Leaves tickCloser ∧ (∀ text j, ∀ x ∈ tickCloser text j, x.IsFeed j) ∧
      (∀ f, ∀ x ∈ tickReport f, x.IsFeed 0) ∧ (∀ x ∈ Program.listeners 1, x.IsUse 1) ∧
      (∀ schedule, Relay.TellsEnd tickRelay unreachedTicks schedule) ∧
      (unreachedTicks.history listeningFirst).any (Deed.registers 1 3 .closed) = true ∧
      callCount 1 3 (unreachedTicks.history listeningFirst) = 1 := by
  have hq : tickClient.compile .subscription ticks =
      .ok ⟨"subscription \x7b tick \x7d", .empty⟩ := by decide +kernel
  have hleaves : tickCarrier.Leaves tickCloser := fun _ _ _ => ⟨(), rfl⟩
  have hfeeds : ∀ text j, ∀ x ∈ tickCloser text j, x.IsFeed j := by
    simp [tickCloser, Command.IsFeed.write]
  have hreport : ∀ f, ∀ x ∈ tickReport f, x.IsFeed 0 := by
    simp [tickReport, Command.IsFeed.write]
  obtain ⟨-, hsides⟩ := Client.end_told_once_in_time hq hleaves hfeeds
    (s := Subscriptions.none) rfl hreport
  exact ⟨hq, hleaves, hfeeds, hreport, Program.uses_listeners 1,
    (hsides _ _ _ (Program.uses_listeners 1)).1, by decide +kernel, by decide +kernel⟩

/-- **A listener can miss the end.**  If the session fails before the caller begins to listen, the
caller gets a handle that has ended, its listener for the end is registered and not called, and
nothing is left to be done that could call it. -/
theorem Client.end_missed_by_late_listener :
    (∃ kept, tickClient.subscribe (some tickCarrier) ticks Subscriptions.none =
        (.ok (1, kept), Subscriptions.none.joined tickRelay)) ∧
      (unreachedTicks.run failingFirst).AtRest ∧
      (unreachedTicks.run failingFirst).shared.closed? 1 = some true ∧
      (unreachedTicks.history failingFirst).any (Deed.registers 1 3 .closed) = true ∧
      callCount 1 3 (unreachedTicks.history failingFirst) = 0 ∧
      .log .info "subscription ended" ∉ (unreachedTicks.run failingFirst).written ∧
      ¬ ∀ schedule, ∀ d ∈ unreachedTicks.history schedule, ∀ k react,
        d.registers? 1 = some (k, .closed, react) →
        (unreachedTicks.run schedule).shared.closed? 1 = some true →
          callCount 1 k (unreachedTicks.history schedule) = 1 := by
  have hq : tickClient.compile .subscription ticks =
      .ok ⟨"subscription \x7b tick \x7d", .empty⟩ := by decide +kernel
  have hleaves : tickCarrier.Leaves tickCloser := fun _ _ _ => ⟨(), rfl⟩
  have hclosed : (unreachedTicks.run failingFirst).shared.closed? 1 = some true := by
    decide +kernel
  have hlistens : (unreachedTicks.history failingFirst).any (Deed.registers 1 3 .closed) = true := by
    decide +kernel
  have hcalls : callCount 1 3 (unreachedTicks.history failingFirst) = 0 := by decide +kernel
  have hrest : ∀ p, ((unreachedTicks.run failingFirst).waiting p).isEmpty = true := by
    decide +kernel
  refine ⟨?_, fun p => List.isEmpty_iff.mp (hrest p), hclosed, hlistens, hcalls,
    by decide +kernel, fun hall => ?_⟩
  · exact subscribe_eq hq hleaves rfl _
  · obtain ⟨d, hd, hregisters⟩ := List.any_eq_true.mp hlistens
    obtain ⟨react, hk⟩ := Deed.registers_iff.mp hregisters
    have hone := hall _ d hd 3 react hk hclosed
    omega

end FieldQuery
