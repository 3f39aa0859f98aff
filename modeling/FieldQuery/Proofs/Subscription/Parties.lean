/-
**Several parties at the same handles.**

A subscription is dealt with from two sides: whoever carries it tells its handle what arrives, and
the caller listens and may close it.  They do so at the same time.  Here every party has commands
of its own that wait, and a schedule says whose turn it is.  A turn is one step of a run in which
nothing but the commands of that party wait, so the handles are all that parties share.  What a
command brings about is waited for by the party that gave the command.

A history lists the commands that were carried out, each with the handles as they were before.
Laws about histories are proved turn by turn, and a run in which everybody has its turn again and
again comes to rest if every turn brings it nearer to its end.

Main definitions:

* `Parties` — handles, and commands that wait, party by party;
* `Parties.turn`, `Parties.run` — a turn, and the turns of a schedule;
* `Parties.Deed`, `Parties.history` — a command carried out, and all of them in their order.

Main results:

* `Parties.turn_notify`, `Parties.turn_close`, `Parties.turn_listen` — what turns do;
* `Parties.history_induction` — **what each turn adds to, the whole history adds up to**;
* `Parties.exists_of_mem_history` — what every turn keeps holds whenever a command is carried out;
* `Parties.exists_turn_of_history_eq` — what is carried out is carried out in some turn;
* `Parties.history_perm` — **nothing that waits is lost or done twice**;
* `Parties.count_add_le`, `Parties.le_count_add` — how many deeds of a kind there are;
* `Parties.exists_rest` — **runs that get nearer to their end come to rest**;
* `Parties.view_run_unit` — a single party does what a run does.
-/

import FieldQuery.Subscription.Run
import Mathlib.Logic.Function.Basic
import Mathlib.Data.Nat.Find

set_option autoImplicit false

namespace FieldQuery

/-! ### What notices do -/

section Handles

variable {ε : Type}

/-- Whether a notice makes a difference to a handle: the end does so once. -/
def Handle.Minds (h : Handle ε) (n : Notice) : Prop := n = .closed → h.closed = false

instance (h : Handle ε) (n : Notice) : Decidable (h.Minds n) :=
  inferInstanceAs (Decidable (n = .closed → h.closed = false))

theorem Handle.notify_of_not_minds {h : Handle ε} {n : Notice} (hn : ¬ h.Minds n) :
    h.notify n = (h, []) := by
  obtain ⟨rfl, hc⟩ := Classical.not_imp.mp hn
  simp [notify, Bool.of_not_eq_false hc]

theorem Handle.notify_of_minds {h : Handle ε} {n : Notice} (hn : h.Minds n) :
    (h.notify n).2 = h.reactions n := by
  by_cases hc : n = .closed
  · simp [notify, hc, hn hc]
  · simp [notify, hc]

@[simp] theorem Handle.listeners_notify (h : Handle ε) (n : Notice) :
    (h.notify n).1.listeners = h.listeners := by
  rw [notify]
  split_ifs <;> rfl

@[simp] theorem Handle.owners_notify (h : Handle ε) (n : Notice) :
    (h.notify n).1.owners = h.owners := by
  rw [notify]
  split_ifs <;> rfl

theorem Handle.closed_notify (h : Handle ε) (n : Notice) :
    (h.notify n).1.closed = true ↔ h.closed = true ∨ n = .closed := by
  rw [notify]
  split_ifs <;> simp_all

theorem Handle.closer_notify (h : Handle ε) (n : Notice) :
    (h.notify n).1.closer = h.closer ∨ n = .closed ∧ (h.notify n).1.closer = none := by
  rw [notify]
  split_ifs <;> simp_all

/-- A handle ends when it minds the end. -/
theorem Handle.running_notify (h : Handle ε) (n : Notice) :
    (decide ((if h.Minds n then some n else none) = some .closed)).toNat +
      (!(h.notify n).1.closed).toNat = (!h.closed).toNat := by
  by_cases hc : n = .closed
  · rcases Bool.eq_false_or_eq_true h.closed with hh | hh <;> simp [notify, Minds, hc, hh]
  · simp [notify, hc]

end Handles

/-- What a command brings about comes before what waits already. -/
theorem Subscriptions.step_waiting {ε : Type} {s : Subscriptions ε} {c : Command ε}
    {rest : List (Command ε)} (h : s.waiting = c :: rest) :
    s.step.waiting = ({ s with waiting := [] }.carryOut c).waiting ++ rest := by
  have hheld : ∀ r i, Subscriptions.held? { s with waiting := r } i = s.held? i := fun _ _ => rfl
  rw [Subscriptions.step, h]
  cases c with
  | write entry => rfl
  | _ i =>
    simp only [Subscriptions.carryOut, Subscriptions.change, Subscriptions.changeThen, hheld]
    cases s.held? i <;> simp

/-- Parties that deal with the same handles, each with commands of its own that wait. -/
structure Parties (ι ε : Type) where
  handles : List (Handle ε)
  waiting : ι → List (Command ε)
  written : List ε

/-- Parties that begin to deal with handles. -/
def Subscriptions.among {ι ε : Type} (s : Subscriptions ε) (calls : ι → List (Command ε)) :
    Parties ι ε := ⟨s.handles, calls, s.written⟩

namespace Parties

/-- A command that a party carries out, and what the party saw before. -/
structure Deed (ι ε : Type) where
  party : ι
  before : Subscriptions ε
  command : Command ε

variable {ι ε : Type}

/-- What a deed brings about for its party to do. -/
def Deed.follows (d : Deed ι ε) : List (Command ε) :=
  ({ d.before with waiting := [] }.carryOut d.command).waiting

/-! ### Orders of turns -/

/-- Everybody has a turn again and again. -/
def Fair (order : Nat → ι) : Prop := ∀ p n, ∃ m, n ≤ m ∧ order m = p

/-- The first turns of an order. -/
def firstTurns (order : Nat → ι) (n : Nat) : List ι := (List.range n).map order

theorem firstTurns_add (order : Nat → ι) (m n : Nat) :
    firstTurns order (m + n) = firstTurns order m ++ firstTurns (fun k => order (m + k)) n := by
  simp [firstTurns, List.range_add]

theorem Fair.later {order : Nat → ι} (h : Fair order) (m : Nat) :
    Fair fun k => order (m + k) := by
  intro p n
  obtain ⟨k, hk, hp⟩ := h p (m + n)
  have hk' : m + (k - m) = k := by omega
  exact ⟨k - m, by omega, by simpa only [hk'] using hp⟩

/-- What a party sees: the handles, and its own commands. -/
def view (w : Parties ι ε) (p : ι) : Subscriptions ε := ⟨w.handles, w.waiting p, w.written⟩

/-- The handles that parties share. -/
def shared (w : Parties ι ε) : Subscriptions ε := ⟨w.handles, [], w.written⟩

/-- Every party sees the handles that all of them share. -/
theorem held?_view (w : Parties ι ε) (p : ι) (j : Nat) :
    (w.view p).held? j = w.shared.held? j := rfl

/-! ### What deeds do to a handle -/

/-- The notice that a deed gives a handle that minds it. -/
def Deed.notice? (j : Nat) (d : Deed ι ε) : Option Notice :=
  match d.command with
  | .notify k n => if k = j ∧ (d.before.held? j).any (·.Minds n) then some n else none
  | _ => none

/-- The listener that a deed adds to a handle: its number, its kind and what it does. -/
def Deed.registers? (j : Nat) (d : Deed ι ε) : Option (Nat × Notice.Kind × Reaction ε) :=
  match d.command with
  | .listen k kind react =>
    if k = j then (d.before.held? j).map fun h => (h.listeners.length, kind, react) else none
  | _ => none

/-- Whether a deed asks a handle to close. -/
def Deed.asks (j : Nat) (d : Deed ι ε) : Bool :=
  match d.command with
  | .close k => k = j
  | _ => false

/-- Whether a deed has done what closes a handle. -/
def Deed.closes (j : Nat) (d : Deed ι ε) : Bool :=
  d.asks j && (d.before.held? j).any fun h => h.closer.isSome

/-- One, as long as a handle has not ended. -/
def running (j : Nat) (w : Parties ι ε) : Nat := (w.shared.closed? j == some false).toNat

/-- One, as long as there is something left that closes a handle. -/
def armed (j : Nat) (w : Parties ι ε) : Nat :=
  ((w.shared.held? j).any fun h => h.closer.isSome).toNat

section Held

variable {w : Parties ι ε} {p : ι} {c : Command ε} {j : Nat} {x : Handle ε}

theorem notice?_of_held (hx : w.shared.held? j = some x) :
    Deed.notice? j ⟨p, w.view p, c⟩ =
      match c with
      | .notify k n => if k = j ∧ x.Minds n then some n else none
      | _ => none := by
  cases c <;> simp [Deed.notice?, held?_view, hx]

theorem registers?_of_held (hx : w.shared.held? j = some x) :
    Deed.registers? j ⟨p, w.view p, c⟩ =
      match c with
      | .listen k kind react => if k = j then some (x.listeners.length, kind, react) else none
      | _ => none := by
  cases c <;> simp [Deed.registers?, held?_view, hx]

theorem closes_of_held (hx : w.shared.held? j = some x) :
    Deed.closes j ⟨p, w.view p, c⟩ =
      match c with
      | .close k => decide (k = j) && x.closer.isSome
      | _ => false := by
  cases c <;> simp [Deed.closes, Deed.asks, held?_view, hx]

theorem running_of_held (hx : w.shared.held? j = some x) :
    running j w = (!x.closed).toNat := by
  cases hc : x.closed <;> simp [running, Subscriptions.closed?, hx, hc]

theorem armed_of_held (hx : w.shared.held? j = some x) : armed j w = x.closer.isSome.toNat := by
  simp [armed, hx]

end Held

variable [DecidableEq ι]

/-! ### Turns -/

/-- What a party makes of the handles, and what it waits for then. -/
def adopt (w : Parties ι ε) (p : ι) (s : Subscriptions ε) : Parties ι ε :=
  ⟨s.handles, Function.update w.waiting p s.waiting, s.written⟩

/-- The next command of a party carried out. -/
def turn (w : Parties ι ε) (p : ι) : Parties ι ε := w.adopt p (w.view p).step

/-- The turns of a schedule. -/
def run (w : Parties ι ε) (schedule : List ι) : Parties ι ε := schedule.foldl turn w

/-- Whether no party has anything left to do. -/
def AtRest (w : Parties ι ε) : Prop := ∀ p, w.waiting p = []

theorem adopt_view (w : Parties ι ε) (p : ι) : w.adopt p (w.view p) = w := by
  simp [adopt, view]

/-- A party for which nothing waits does nothing. -/
theorem turn_of_idle {w : Parties ι ε} {p : ι} (h : w.waiting p = []) : w.turn p = w := by
  rw [turn, Subscriptions.step_of_idle (by exact h), adopt_view]

section Turns

variable {w : Parties ι ε} {p : ι} {rest : List (Command ε)}

theorem turn_write {entry : ε} (h : w.waiting p = .write entry :: rest) :
    w.turn p = ⟨w.handles, Function.update w.waiting p rest, w.written ++ [entry]⟩ := by
  simp [turn, adopt, view, Subscriptions.step, Subscriptions.carryOut, h]

variable {i : Nat} {x : Handle ε}

/-- Somebody who begins to listen is added to the listeners. -/
theorem turn_listen {kind : Notice.Kind} {react : Reaction ε} (hx : w.shared.held? i = some x)
    (h : w.waiting p = .listen i kind react :: rest) :
    w.turn p = ⟨w.handles.set i (x.listen kind react), Function.update w.waiting p rest,
      w.written⟩ := by
  have hx' : Subscriptions.held? ⟨w.handles, rest, w.written⟩ i = some x := hx
  simp [turn, adopt, view, Subscriptions.step, Subscriptions.carryOut, Subscriptions.change, h, hx']

/-- Closing a handle brings its closer to the front. -/
theorem turn_close (hx : w.shared.held? i = some x) (h : w.waiting p = .close i :: rest) :
    w.turn p = ⟨w.handles.set i x.close.1, Function.update w.waiting p (x.close.2 ++ rest),
      w.written⟩ := by
  have hx' : Subscriptions.held? ⟨w.handles, rest, w.written⟩ i = some x := hx
  simp [turn, adopt, view, Subscriptions.step, Subscriptions.carryOut, Subscriptions.changeThen, h,
    hx']

/-- A notice brings the reactions of the listeners to the front. -/
theorem turn_notify {n : Notice} (hx : w.shared.held? i = some x)
    (h : w.waiting p = .notify i n :: rest) :
    w.turn p = ⟨w.handles.set i (x.notify n).1,
      Function.update w.waiting p ((x.notify n).2 ++ rest), w.written⟩ := by
  have hx' : Subscriptions.held? ⟨w.handles, rest, w.written⟩ i = some x := hx
  simp [turn, adopt, view, Subscriptions.step, Subscriptions.carryOut, Subscriptions.changeThen, h,
    hx']

end Turns

@[simp] theorem run_nil (w : Parties ι ε) : w.run [] = w := rfl

@[simp] theorem run_cons (w : Parties ι ε) (p : ι) (schedule : List ι) :
    w.run (p :: schedule) = (w.turn p).run schedule := rfl

theorem run_append (w : Parties ι ε) (s t : List ι) : w.run (s ++ t) = (w.run s).run t :=
  List.foldl_append

theorem turn_waiting {w : Parties ι ε} {p : ι} {c : Command ε} {rest : List (Command ε)}
    (h : w.waiting p = c :: rest) :
    (w.turn p).waiting =
      Function.update w.waiting p (Deed.follows ⟨p, w.view p, c⟩ ++ rest) := by
  rw [turn, adopt, Subscriptions.step_waiting (s := w.view p) h]
  rfl

/-- A single party does what a run does. -/
theorem view_run_unit (w : Parties Unit ε) (n : Nat) :
    (w.run (List.replicate n ())).view () = (w.view ()).settle n := by
  induction n generalizing w with
  | zero => rfl
  | succ n ih =>
    rw [List.replicate_succ, run_cons, ih, Subscriptions.settle_succ]
    simp [turn, adopt, view]

/-! ### Histories -/

/-- What a party does when it has its turn. -/
def deed? (w : Parties ι ε) (p : ι) : Option (Deed ι ε) :=
  (w.waiting p).head?.map fun c => ⟨p, w.view p, c⟩

/-- The commands that are carried out in the turns of a schedule. -/
def history : Parties ι ε → List ι → List (Deed ι ε)
  | _, [] => []
  | w, p :: schedule => (w.deed? p).toList ++ (w.turn p).history schedule

theorem history_of_idle {w : Parties ι ε} {p : ι} (h : w.waiting p = []) (schedule : List ι) :
    w.history (p :: schedule) = w.history schedule := by
  simp [history, deed?, h, turn_of_idle h]

theorem history_of_waiting {w : Parties ι ε} {p : ι} {c : Command ε} {rest : List (Command ε)}
    (h : w.waiting p = c :: rest) (schedule : List ι) :
    w.history (p :: schedule) = ⟨p, w.view p, c⟩ :: (w.turn p).history schedule := by
  simp [history, deed?, h]

/-- A history can be cut anywhere. -/
theorem history_append (w : Parties ι ε) (s t : List ι) :
    w.history (s ++ t) = w.history s ++ (w.run s).history t := by
  induction s generalizing w with
  | nil => rfl
  | cons p s ih => simp [history, ih]

section Laws

variable {Inv : Parties ι ε → Prop}

/-- **What each turn adds to, the whole history adds up to**: a law about what is carried out on
the way from one state to another holds if it holds of the empty way and of one turn more. -/
theorem history_induction (Inv : Parties ι ε → Prop)
    (Law : Parties ι ε → List (Deed ι ε) → Parties ι ε → Prop)
    (keep : ∀ w p, Inv w → Inv (w.turn p)) (nil : ∀ w, Inv w → Law w [] w)
    (cons : ∀ w p c rest deeds last, Inv w → w.waiting p = c :: rest →
      Law (w.turn p) deeds last → Law w (⟨p, w.view p, c⟩ :: deeds) last)
    {w : Parties ι ε} (hw : Inv w) (schedule : List ι) :
    Law w (w.history schedule) (w.run schedule) := by
  induction schedule generalizing w with
  | nil => exact nil w hw
  | cons p schedule ih =>
    cases h : w.waiting p with
    | nil =>
      rw [history_of_idle h, run_cons, turn_of_idle h]
      exact ih hw
    | cons c rest =>
      rw [history_of_waiting h, run_cons]
      exact cons w p c rest _ _ hw h (ih (keep w p hw))

theorem inv_run (keep : ∀ w p, Inv w → Inv (w.turn p)) {w : Parties ι ε} (hw : Inv w)
    (schedule : List ι) : Inv (w.run schedule) :=
  List.foldlRecOn schedule turn hw fun w hw p _ => keep w p hw

/-- What every turn keeps holds whenever a command is carried out. -/
theorem exists_of_mem_history (keep : ∀ w p, Inv w → Inv (w.turn p)) {w : Parties ι ε}
    (hw : Inv w) {schedule : List ι} {d : Deed ι ε} (hd : d ∈ w.history schedule) :
    ∃ w' rest, Inv w' ∧ w'.waiting d.party = d.command :: rest ∧ d.before = w'.view d.party := by
  refine history_induction Inv
    (fun _ deeds _ => ∀ d ∈ deeds, ∃ w' rest, Inv w' ∧
      w'.waiting d.party = d.command :: rest ∧ d.before = w'.view d.party)
    keep ?_ ?_ hw schedule d hd
  · intro w _ d hd
    cases hd
  · intro w p c rest deeds last hw hc ih d hd
    rcases List.mem_cons.mp hd with rfl | hd
    · exact ⟨w, rest, hw, hc, rfl⟩
    · exact ih d hd

/-- Where a history is cut at a deed, the schedule is cut at the turn in which it was done. -/
theorem exists_turn_of_history_eq {w : Parties ι ε} {schedule : List ι}
    {earlier later : List (Deed ι ε)} {d : Deed ι ε}
    (h : w.history schedule = earlier ++ d :: later) :
    ∃ before p after rest, schedule = before ++ p :: after ∧ w.history before = earlier ∧
      (w.run before).waiting p = d.command :: rest ∧ d = ⟨p, (w.run before).view p, d.command⟩ ∧
      ((w.run before).turn p).history after = later := by
  induction schedule generalizing w earlier with
  | nil => simp [history] at h
  | cons q schedule ih =>
    cases hc : w.waiting q with
    | nil =>
      rw [history_of_idle hc] at h
      obtain ⟨before, p, after, rest, rfl, hearlier, hp, hd, hlater⟩ := ih h
      have hrun : w.run (q :: before) = w.run before := by rw [run_cons, turn_of_idle hc]
      rw [← hrun] at hp hd hlater
      exact ⟨q :: before, p, after, rest, rfl, by rw [history_of_idle hc, hearlier], hp, hd,
        hlater⟩
    | cons c more =>
      rw [history_of_waiting hc] at h
      cases earlier with
      | nil =>
        obtain ⟨rfl, hlater⟩ := List.cons.inj h
        exact ⟨[], q, schedule, more, rfl, rfl, hc, rfl, hlater⟩
      | cons e earlier =>
        obtain ⟨rfl, htail⟩ := List.cons.inj h
        obtain ⟨before, p, after, rest, rfl, hearlier, hp, hd, hlater⟩ := ih htail
        exact ⟨q :: before, p, after, rest, rfl, by rw [history_of_waiting hc, hearlier], hp, hd,
          hlater⟩

/-- What is carried out is carried out in some turn of the schedule. -/
theorem exists_turn_of_mem_history {w : Parties ι ε} {schedule : List ι} {d : Deed ι ε}
    (hd : d ∈ w.history schedule) :
    ∃ before p after rest, schedule = before ++ p :: after ∧
      (w.run before).waiting p = d.command :: rest ∧ d = ⟨p, (w.run before).view p, d.command⟩ := by
  obtain ⟨earlier, later, hcut⟩ := List.append_of_mem hd
  obtain ⟨before, p, after, rest, hschedule, -, hp, hdeed, -⟩ := exists_turn_of_history_eq hcut
  exact ⟨before, p, after, rest, hschedule, hp, hdeed⟩

/-- What a party does. -/
def deedsOf (p : ι) (deeds : List (Deed ι ε)) : List (Deed ι ε) := deeds.filter (·.party = p)

/-- What a party tells a handle. -/
def notices (j : Nat) (p : ι) (deeds : List (Deed ι ε)) : List Notice :=
  (deedsOf p deeds).filterMap (Deed.notice? j)

/-- **Nothing that waits is lost or done twice**: what a party has done and what it has still to do
is what waited and what its deeds have brought about. -/
theorem history_perm (w : Parties ι ε) (p : ι) (schedule : List ι) :
    List.Perm
      ((deedsOf p (w.history schedule)).map Deed.command ++ (w.run schedule).waiting p)
      (w.waiting p ++ (deedsOf p (w.history schedule)).flatMap Deed.follows) := by
  refine history_induction (fun _ => True)
    (fun w deeds last => List.Perm
      ((deedsOf p deeds).map Deed.command ++ last.waiting p)
      (w.waiting p ++ (deedsOf p deeds).flatMap Deed.follows))
    (fun _ _ _ => trivial) (fun w _ => by simp [deedsOf]) ?_ trivial schedule
  intro w q c rest deeds last _ hc ih
  rw [turn_waiting hc] at ih
  by_cases hq : q = p
  · subst hq
    simp only [Function.update_self] at ih
    simp only [deedsOf, List.filter_cons, decide_true, if_true, List.map_cons, List.flatMap_cons,
      List.cons_append, hc, List.perm_cons]
    refine ih.trans ?_
    rw [← List.append_assoc]
    exact List.perm_append_comm.append_right _
  · simp only [Function.update_of_ne (Ne.symm hq)] at ih
    simpa [deedsOf, hq] using ih

/-- A store from which deeds of a kind take one each bounds how many of them there are. -/
theorem count_add_le {q : Deed ι ε → Bool} (store : Parties ι ε → Nat)
    (keep : ∀ w p, Inv w → Inv (w.turn p))
    (step : ∀ w p c rest, Inv w → w.waiting p = c :: rest →
      (q ⟨p, w.view p, c⟩).toNat + store (w.turn p) ≤ store w)
    {w : Parties ι ε} (hw : Inv w) (schedule : List ι) :
    (w.history schedule).countP q + store (w.run schedule) ≤ store w := by
  refine history_induction Inv (fun w deeds last => deeds.countP q + store last ≤ store w)
    keep (fun w _ => by simp) ?_ hw schedule
  intro w p c rest deeds last hw hc ih
  have h := step w p c rest hw hc
  rw [List.countP_cons]
  cases hq : q ⟨p, w.view p, c⟩ <;> simp [hq] at h ⊢ <;> omega

/-- A store from which nothing else takes shows how many deeds of a kind there were. -/
theorem le_count_add {q : Deed ι ε → Bool} (store : Parties ι ε → Nat)
    (keep : ∀ w p, Inv w → Inv (w.turn p))
    (step : ∀ w p c rest, Inv w → w.waiting p = c :: rest →
      store w ≤ (q ⟨p, w.view p, c⟩).toNat + store (w.turn p))
    {w : Parties ι ε} (hw : Inv w) (schedule : List ι) :
    store w ≤ (w.history schedule).countP q + store (w.run schedule) := by
  refine history_induction Inv (fun w deeds last => store w ≤ deeds.countP q + store last)
    keep (fun w _ => by simp) ?_ hw schedule
  intro w p c rest deeds last hw hc ih
  have h := step w p c rest hw hc
  rw [List.countP_cons]
  cases hq : q ⟨p, w.view p, c⟩ <;> simp [hq] at h ⊢ <;> omega

/-! ### Coming to rest -/

theorem run_of_idle {w : Parties ι ε} {schedule : List ι}
    (h : ∀ p ∈ schedule, w.waiting p = []) : w.run schedule = w := by
  induction schedule with
  | nil => rfl
  | cons p schedule ih =>
    rw [run_cons, turn_of_idle (h p List.mem_cons_self)]
    exact ih fun q hq => h q (List.mem_cons_of_mem _ hq)

/-- **Runs that get nearer to their end come to rest**, if everybody has its turn again and
again. -/
theorem exists_rest {α : Type} {lt : α → α → Prop} (wf : WellFounded lt) (rank : Parties ι ε → α)
    (keep : ∀ w p, Inv w → Inv (w.turn p))
    (drop : ∀ w p, Inv w → w.waiting p ≠ [] → lt (rank (w.turn p)) (rank w))
    {w : Parties ι ε} (hw : Inv w) {order : Nat → ι} (fair : Fair order) :
    ∃ n, (w.run (firstTurns order n)).AtRest := by
  generalize hr : rank w = r
  induction r using wf.induction generalizing w order with
  | _ r ih =>
    by_cases hrest : w.AtRest
    · exact ⟨0, hrest⟩
    · -- The next turn of somebody who has something to do brings the run nearer to its end.
      have hbusy : ∃ m, w.waiting (order m) ≠ [] := by
        obtain ⟨p, hp⟩ := not_forall.mp hrest
        obtain ⟨m, -, hm⟩ := fair p 0
        exact ⟨m, hm ▸ hp⟩
      classical
      let m := Nat.find hbusy
      have hidle : w.run (firstTurns order m) = w := by
        refine run_of_idle fun p hp => ?_
        obtain ⟨k, hk, rfl⟩ := List.mem_map.mp hp
        exact not_not.mp (Nat.find_min hbusy (List.mem_range.mp hk))
      have hturn : w.run (firstTurns order (m + 1)) = w.turn (order m) := by
        rw [firstTurns_add, run_append, hidle]
        rfl
      have hdrop := drop w (order m) hw (Nat.find_spec hbusy)
      obtain ⟨n, hn⟩ := ih _ (hr ▸ hdrop) (keep w _ hw) (fair.later (m + 1)) rfl
      exact ⟨m + 1 + n, by rw [firstTurns_add, run_append, hturn]; exact hn⟩

end Laws

end Parties

end FieldQuery
