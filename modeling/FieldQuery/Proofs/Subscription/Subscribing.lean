/-
**Subscribing gives a faithful relay.**

A client that subscribes makes two handles, joins them by a relay, and gives the outer one to the
carrier, which leaves with it what is to be done when the subscription is closed.  When it returns,
nothing has been told and nothing waits.  From then on the relay is faithful to every selection that
compiles, whatever the carrier tells its handle and whatever the caller does with the one that it
got.

Main definitions:

* `Carrier.Leaves` — what a carrier does before it returns;
* `Relay.next` — the relay between two new handles;
* `Subscriptions.among` — parties that begin to deal with handles.

Main results:

* `Subscriptions.perform_quiet` — commands that only change handles are carried out one by one;
* `Client.subscribe_eq` — what subscribing makes;
* `Client.subscribe_faithful` — **the handle that a caller gets hears what the carrier says**.
-/

import FieldQuery.Proofs.Subscription.Delivery
import FieldQuery.Proofs.Subscription.Rest
import FieldQuery.CommandLine.Run

set_option autoImplicit false

namespace FieldQuery

open Parties

variable {ε : Type}

/-! ### Commands that bring nothing about -/

/-- Whether a command changes a handle and brings nothing else about. -/
def Command.isQuiet : Command ε → Bool
  | .listen .. | .closeWith .. => true
  | _ => false

namespace Subscriptions

/-- What a quiet command does has nothing to do with what waits. -/
theorem carryOut_quiet {c : Command ε} (h : c.isQuiet = true) (s : Subscriptions ε)
    (rest : List (Command ε)) :
    { s with waiting := rest }.carryOut c = { s.carryOut c with waiting := rest } := by
  have hheld : ∀ i, Subscriptions.held? { s with waiting := rest } i = s.held? i := fun _ => rfl
  cases c with
  | listen i kind react =>
    simp only [carryOut, change, hheld]
    cases s.held? i <;> rfl
  | closeWith i closer =>
    simp only [carryOut, change, hheld]
    cases s.held? i <;> rfl
  | _ => cases h

theorem waiting_carryOut_quiet {c : Command ε} (h : c.isQuiet = true) (s : Subscriptions ε) :
    (s.carryOut c).waiting = s.waiting := by
  have hs := congrArg Subscriptions.waiting (carryOut_quiet h s s.waiting)
  exact hs

theorem settle_quiet {cs : List (Command ε)} (h : ∀ c ∈ cs, c.isQuiet = true) {n : Nat}
    (hn : cs.length ≤ n) {s : Subscriptions ε} (hs : s.waiting = []) :
    settle n { s with waiting := cs } = cs.foldl carryOut s := by
  induction cs generalizing n s with
  | nil =>
    obtain ⟨handles, waiting, written⟩ := s
    obtain rfl : waiting = [] := hs
    rw [settle_of_idle rfl, List.foldl_nil]
  | cons c rest ih =>
    obtain ⟨m, rfl⟩ : ∃ m, n = m + 1 := ⟨n - 1, by simp at hn; omega⟩
    have hc := h c List.mem_cons_self
    have hstep : Subscriptions.step { s with waiting := c :: rest } =
        { s.carryOut c with waiting := rest } := carryOut_quiet hc s rest
    rw [settle_succ, hstep, List.foldl_cons]
    exact ih (fun d hd => h d (List.mem_cons_of_mem _ hd)) (by simpa using hn)
      (by rw [waiting_carryOut_quiet hc, hs])

/-- Commands that only change handles are carried out one by one. -/
theorem perform_quiet {cs : List (Command ε)} (h : ∀ c ∈ cs, c.isQuiet = true)
    {s : Subscriptions ε} (hs : s.waiting = []) : s.perform cs = cs.foldl carryOut s := by
  have hallowed : cs.length ≤ allowance { s with waiting := cs } := by
    simp only [allowance]
    omega
  rw [perform, hs, List.nil_append]
  exact settle_quiet h hallowed hs

section LastTwo

variable {hs : List (Handle ε)} {ws : List ε} {x y : Handle ε} {f : Handle ε → Handle ε}

theorem change_outer (hx : x.owners ≠ 0) :
    (⟨hs ++ [x, y], [], ws⟩ : Subscriptions ε).change hs.length f = ⟨hs ++ [f x, y], [], ws⟩ := by
  have hheld : (⟨hs ++ [x, y], [], ws⟩ : Subscriptions ε).held? hs.length = some x := by
    simp [held?, Option.filter, hx]
  rw [change, hheld]
  simp

theorem change_inner (hy : y.owners ≠ 0) :
    (⟨hs ++ [x, y], [], ws⟩ : Subscriptions ε).change (hs.length + 1) f =
      ⟨hs ++ [x, f y], [], ws⟩ := by
  have hheld : (⟨hs ++ [x, y], [], ws⟩ : Subscriptions ε).held? (hs.length + 1) = some y := by
    simp [held?, Option.filter, hy]
  rw [change, hheld]
  simp

end LastTwo

end Subscriptions

/-! ### Subscribing -/

section Subscribing

variable {α : Type}

/-- A carrier that leaves with its handle what is done when it is closed, and does nothing else
before it returns. -/
def Carrier.Leaves (carry : Carrier ε α) (closer : String → Nat → List (Command ε)) : Prop :=
  ∀ text handle s, ∃ kept,
    carry text handle s = (.ok kept, s.perform [.closeWith handle (closer text handle)])

/-- The relay between the two handles that are made next. -/
def Relay.next (s : Subscriptions ε) (decode : Json → Except DecodeError Json)
    (closer : List (Command ε)) (feeds : ∀ x ∈ closer, x.IsFeed s.handles.length) : Relay ε where
  outer := s.handles.length
  inner := s.handles.length + 1
  decode := decode
  closer := closer
  apart := by omega
  feeds := feeds

/-- The outer handle of a relay at its beginning. -/
def Relay.outerHandle (r : Relay ε) : Handle ε := ⟨r.listeners, some r.closer, false, 1⟩

/-- The inner handle of a relay at its beginning. -/
def Relay.innerHandle (r : Relay ε) : Handle ε := ⟨[], some [.close r.outer], false, 1⟩

/-- The handles with those of a new relay. -/
def Subscriptions.joined (r : Relay ε) (s : Subscriptions ε) : Subscriptions ε :=
  { s with handles := s.handles ++ [r.outerHandle, r.innerHandle] }

/-- A part of the work that succeeds is followed by the rest. -/
theorem Subscribing.bind_ok {β : Type} {x : Subscribing ε α} {f : α → Subscribing ε β} {a : α}
    {s t : Subscriptions ε} (h : x s = (.ok a, t)) : (x >>= f) s = f a t := by
  change (ExceptT.bindCont f (x s).1) (x s).2 = f a t
  rw [h]
  rfl

theorem Subscribing.perform_eq {cs : List (Command ε)} {s t : Subscriptions ε}
    (h : s.perform cs = t) : (Subscribing.perform cs : Subscribing ε Unit) s = (.ok (), t) := by
  rw [Subscribing.perform, h]

/-- What subscribing makes. -/
theorem Client.subscribe_eq {c : Client} {sel : SelectionSet} {q : CompiledQuery}
    (hq : c.compile .subscription sel = .ok q) {carry : Carrier ε α}
    {closer : String → Nat → List (Command ε)} (hcarry : carry.Leaves closer)
    {s : Subscriptions ε} (hs : s.waiting = [])
    (feeds : ∀ x ∈ closer q.text s.handles.length, x.IsFeed s.handles.length) :
    ∃ kept, c.subscribe (some carry) sel s = (.ok (s.handles.length + 1, kept),
      s.joined (.next s (c.decode .subscription sel) (closer q.text s.handles.length) feeds)) := by
  obtain ⟨handles, waiting, written⟩ := s
  obtain rfl : waiting = [] := hs
  let r : Relay ε := .next ⟨handles, [], written⟩ (c.decode .subscription sel)
    (closer q.text handles.length) feeds
  let made : Subscriptions ε := ⟨handles ++ [.fresh, .fresh], [], written⟩
  let wired : Subscriptions ε :=
    ⟨handles ++ [{ r.outerHandle with closer := none }, r.innerHandle], [], written⟩
  have hrelay : made.perform (relay r.outer r.inner r.decode) = wired := by
    rw [Subscriptions.perform_quiet (by simp [relay, Notice.Kind.all, Command.isQuiet]) rfl]
    simp [relay, Notice.Kind.all, Subscriptions.carryOut, made, wired, r, Relay.next,
      Subscriptions.change_outer, Subscriptions.change_inner, Handle.fresh, Handle.listen,
      Relay.outerHandle, Relay.innerHandle, Relay.listeners]
  have hcloser : wired.perform [.closeWith r.outer r.closer] =
      Subscriptions.joined r ⟨handles, [], written⟩ := by
    rw [Subscriptions.perform_quiet (by simp [Command.isQuiet]) rfl]
    simp [Subscriptions.carryOut, wired, r, Relay.next, Subscriptions.change_outer,
      Subscriptions.joined, Relay.outerHandle]
  obtain ⟨kept, hkept⟩ := hcarry q.text handles.length wired
  have hlift : (Subscribing.lift (c.compile .subscription sel) : Subscribing ε CompiledQuery)
      ⟨handles, [], written⟩ = (.ok q, ⟨handles, [], written⟩) := by
    rw [hq]
    rfl
  have houter : (Subscribing.make : Subscribing ε Nat) ⟨handles, [], written⟩ =
      (.ok handles.length, ⟨handles ++ [.fresh], [], written⟩) := rfl
  have hinner : (Subscribing.make : Subscribing ε Nat) ⟨handles ++ [.fresh], [], written⟩ =
      (.ok (handles.length + 1), made) := by
    simp [Subscribing.make, Subscriptions.make, made]
  have hperform : (Subscribing.perform (relay handles.length (handles.length + 1)
      (c.decode .subscription sel)) : Subscribing ε Unit) made = (.ok (), wired) :=
    Subscribing.perform_eq hrelay
  have hcarried : carry q.text handles.length wired =
      (.ok kept, Subscriptions.joined r ⟨handles, [], written⟩) := by
    rw [← hcloser]
    exact hkept
  refine ⟨kept, ?_⟩
  simp only [Client.subscribe]
  rw [Subscribing.bind_ok hlift, Subscribing.bind_ok houter, Subscribing.bind_ok hinner,
    Subscribing.bind_ok hperform, Subscribing.bind_ok hcarried]
  rfl

section Among

variable {ι : Type} {s : Subscriptions ε} {r : Relay ε} {calls : ι → List (Command ε)}

/-- The handles of a new relay are joined, with whatever parties do. -/
theorem Subscriptions.joined_among (ho : r.outer = s.handles.length)
    (hi : r.inner = s.handles.length + 1) (hcalls : ∀ p, ∀ x ∈ calls p, r.IsCall x) :
    Relay.Joined r r.outerHandle r.innerHandle ((s.joined r).among calls) := by
  have idle : ∀ p, r.errand? (calls p) = Option.none :=
    fun p => Relay.errand?_of_calls (hcalls p)
  refine ⟨by simp [among, joined, ho], by simp [among, joined, hi], ?_,
    fun p => .inl (hcalls p), ?_⟩
  · exact ⟨by simp [Relay.outerHandle], by simp [Relay.innerHandle], rfl,
      by simp [Relay.innerHandle], .inr rfl, .inr rfl, by simp [Relay.outerHandle]⟩
  · constructor <;> simp [among, idle, Relay.innerHandle]

/-- Nothing has been told yet to the handles of a new relay, and nothing has been closed. -/
theorem Subscriptions.fresh_among (ho : r.outer = s.handles.length)
    (hi : r.inner = s.handles.length + 1) (hcalls : ∀ p, ∀ x ∈ calls p, r.IsCall x) :
    Relay.Fresh r ((s.joined r).among calls) := by
  have hj := joined_among ho hi hcalls
  exact ⟨⟨running_of_held hj.held_outer, running_of_held hj.held_inner⟩,
    ⟨armed_of_held hj.held_outer, armed_of_held hj.held_inner⟩,
    fun p => Relay.errand?_of_calls (hcalls p)⟩

end Among

/-- **The handle that a caller gets hears what the carrier says.**  A subscription to a selection
that compiles is begun, and from then on the relay between the two handles is faithful to any
number of parties, whatever they call and in whatever order they have their turns; and if everybody
has a turn again and again, they come to rest. -/
theorem Client.subscribe_faithful {ι : Type} [DecidableEq ι] [Fintype ι] {c : Client}
    {sel : SelectionSet} {q : CompiledQuery} (hq : c.compile .subscription sel = .ok q)
    {carry : Carrier ε α} {closer : String → Nat → List (Command ε)}
    (hcarry : carry.Leaves closer) (hcloser : ∀ text j, ∀ x ∈ closer text j, x.IsFeed j)
    {s : Subscriptions ε} (hs : s.waiting = []) :
    let r : Relay ε := .next s (c.decode .subscription sel) (closer q.text s.handles.length)
      (hcloser q.text s.handles.length)
    (∃ kept, c.subscribe (some carry) sel s = (.ok (r.inner, kept), s.joined r)) ∧
      ∀ calls : ι → List (Command ε), (∀ p, ∀ x ∈ calls p, r.IsCall x) →
        (∀ schedule, Relay.Faithful r ((s.joined r).among calls) schedule) ∧
        ∀ order, Fair order →
          ∃ n, (((s.joined r).among calls).run (firstTurns order n)).AtRest := by
  intro r
  refine ⟨subscribe_eq hq hcarry hs _, fun calls hcalls => ?_⟩
  have htied : Relay.Tied r ((s.joined r).among calls) :=
    ⟨_, _, Subscriptions.joined_among rfl rfl hcalls⟩
  have hfresh : Relay.Fresh r ((s.joined r).among calls) :=
    Subscriptions.fresh_among rfl rfl hcalls
  exact ⟨htied.faithful hfresh, fun _ fair => htied.exists_rest fair⟩

end Subscribing

/-! ### The program -/

/-- The program leaves nothing to be done when a subscription is closed. -/
theorem Program.carrier_leaves : Program.carrier.Leaves fun _ _ => [] :=
  fun text handle _ => ⟨(text, handle), rfl⟩

/-- The program listens as a caller does. -/
theorem Program.uses_listeners (inner : Nat) : ∀ c ∈ Program.listeners inner, c.IsUse inner := by
  intro c hc
  obtain ⟨kind, -, rfl⟩ := List.mem_map.mp hc
  refine .listen kind _ fun n c hc => ?_
  obtain rfl := List.mem_singleton.mp hc
  exact .write _

/-- A session tells its handle what a carrier does. -/
theorem Session.feeds_commands {outer : Nat} {report : Failure → List (Command ε)}
    (hreport : ∀ f, ∀ c ∈ report f, c.IsFeed outer) (effects : List Session.Effect) :
    ∀ c ∈ Session.commands outer report effects, c.IsFeed outer := by
  intro c hc
  obtain ⟨effect, -, hc⟩ := List.mem_flatMap.mp hc
  cases effect with
  | send m => cases hc
  | tell n =>
    obtain rfl := List.mem_singleton.mp hc
    exact .notify n
  | report f => exact hreport f c hc

/-! ### Ticks -/

/-- A client of a schema that has one subscription, to ticks, which are numbers and are received as
strings. -/
def tickClient : Client :=
  ⟨⟨.ofEntries [("subscription", "Subscription")], .empty,
      .ofEntries [("Subscription", .fields (.ofEntries [("tick", "numeric")])),
        ("numeric", .scalar "numeric")]⟩,
    Coders.withCoder .empty "numeric" StockCodec.numericString.coder, none⟩

/-- The selection of ticks. -/
def ticks : SelectionSet := SelectionSet.empty.withField "tick"

/-- The data of a tick. -/
def tickData (v : Json) : Json := .object [("tick", v)]

/-- A session that opens, brings a tick and something that is none, and ends; and a caller that
listens and closes. -/
def tickCalls : Bool → List (Command Output)
  | true => Session.commands 0 (fun _ => [])
      [.tell .opened, .tell (.message (tickData (.string "7"))),
        .tell (.message (tickData (.string "x"))), .tell .closed]
  | false => Program.listeners 1 ++ [.close 1]

/-- A carrier that writes out the query when the subscription is closed. -/
def tickCarrier : Carrier Output Unit := fun text handle =>
  Subscribing.perform [.closeWith handle [.write (.line text)]]

/-- What the carrier of ticks does when the subscription is closed. -/
def tickCloser (text : String) (_ : Nat) : List (Command Output) := [.write (.line text)]

/-- The relay of a subscription to ticks. -/
def tickRelay : Relay Output :=
  .next Subscriptions.none (tickClient.decode .subscription ticks)
    (tickCloser "subscription { tick }" 0) (by simp [tickCloser, Command.IsFeed.write])

/-- What is written in so many turns of the caller, then of the session, and then of the caller
again. -/
def tickOutput (first session last : Nat) : List Output :=
  (((Subscriptions.none.joined tickRelay).among tickCalls).run
    (List.replicate first false ++ List.replicate session true ++
      List.replicate last false)).written

/-- The ticks are heard one by one, and what is none is an error of its own.  Closing does what the
carrier left to be done, but nothing after the end. -/
theorem Client.subscribe_faithful_ticks :
    tickClient.compile .subscription ticks = .ok ⟨"subscription { tick }", .empty⟩ ∧
      tickCarrier.Leaves tickCloser ∧ (∀ text j, ∀ x ∈ tickCloser text j, x.IsFeed j) ∧
      (∃ kept, tickClient.subscribe (some tickCarrier) ticks Subscriptions.none =
        (.ok (1, kept), Subscriptions.none.joined tickRelay)) ∧
      (∀ p, ∀ x ∈ tickCalls p, tickRelay.IsCall x) ∧
      (∀ schedule, Relay.Faithful tickRelay
        ((Subscriptions.none.joined tickRelay).among tickCalls) schedule) ∧
      let heard : List Output := [.log .info "subscription started", .line "\x7b\"tick\":7\x7d",
        .log .error ("failed to decode scalar `numeric` at `tick`\n\nCaused by:\n    " ++
          "value `x` is not valid for this scalar"),
        .log .info "subscription ended"]
      tickOutput 4 16 4 = heard ∧ tickOutput 7 16 0 = .line "subscription { tick }" :: heard := by
  have hq : tickClient.compile .subscription ticks =
      .ok ⟨"subscription { tick }", .empty⟩ := by decide +kernel
  have hleaves : tickCarrier.Leaves tickCloser := fun _ _ _ => ⟨(), rfl⟩
  have hfeeds : ∀ text j, ∀ x ∈ tickCloser text j, x.IsFeed j := by
    simp [tickCloser, Command.IsFeed.write]
  have hcalls : ∀ p, ∀ x ∈ tickCalls p, tickRelay.IsCall x := by
    rintro (_ | _) x hx
    · rcases List.mem_append.mp hx with hx | hx
      · exact .inr (Program.uses_listeners 1 x hx)
      · obtain rfl := List.mem_singleton.mp hx
        exact .inr .close
    · exact .inl (Session.feeds_commands (by simp) _ x hx)
  obtain ⟨hbegun, hfaithful⟩ := Client.subscribe_faithful (ι := Bool) hq hleaves hfeeds
    (s := Subscriptions.none) rfl
  exact ⟨hq, hleaves, hfeeds, hbegun, hcalls, (hfaithful tickCalls hcalls).1, by decide +kernel,
    by decide +kernel⟩

end FieldQuery
