/-
**Running commands.**

Commands are carried out one after another.  What a command brings about comes before what was
waiting, so that a listener has done all it wants before the next one is called.  A command for a
handle that nobody holds any more does nothing.

Listeners can keep each other busy for ever.  Nothing here waits that long: a run has a number of
steps, and `Subscriptions.perform` allows for many more than listeners take that only pass notices
on.

Main definitions:

* `Subscriptions` — the handles, the commands that wait, and what was written;
* `Subscriptions.step`, `Subscriptions.settle` — one command, and a number of them;
* `Subscriptions.perform` — commands carried out with all that follows.

Main results:

* `Subscriptions.settle_of_idle` — where nothing waits, nothing happens;
* `Subscriptions.settle_add` — a run can be cut anywhere.
-/

import FieldQuery.Subscription.Handle

set_option autoImplicit false

namespace FieldQuery

/-- The handles in the order of their making, the commands that wait, and what was written. -/
structure Subscriptions (ε : Type) where
  handles : List (Handle ε)
  waiting : List (Command ε)
  written : List ε

namespace Subscriptions

variable {ε : Type}

/-- No handles at all. -/
def none : Subscriptions ε := ⟨[], [], []⟩

/-! ### Handles by number -/

/-- A handle that somebody holds. -/
def held? (s : Subscriptions ε) (i : Nat) : Option (Handle ε) :=
  s.handles[i]?.filter fun h => h.owners != 0

/-- A new handle and its number. -/
def make (s : Subscriptions ε) : Nat × Subscriptions ε :=
  (s.handles.length, { s with handles := s.handles ++ [.fresh] })

/-- Whether a subscription has ended, as long as somebody holds it. -/
def closed? (s : Subscriptions ε) (i : Nat) : Option Bool := (s.held? i).map Handle.closed

/-- A handle changed, if somebody holds it. -/
def change (i : Nat) (f : Handle ε → Handle ε) (s : Subscriptions ε) : Subscriptions ε :=
  match s.held? i with
  | some h => { s with handles := s.handles.set i (f h) }
  | Option.none => s

/-- A handle changed, if somebody holds it, with commands that follow from the change. -/
def changeThen (i : Nat) (f : Handle ε → Handle ε × List (Command ε)) (s : Subscriptions ε) :
    Subscriptions ε :=
  match s.held? i with
  | some h => { s with handles := s.handles.set i (f h).1, waiting := (f h).2 ++ s.waiting }
  | Option.none => s

/-! ### Commands -/

/-- What one command does. -/
def carryOut (s : Subscriptions ε) : Command ε → Subscriptions ε
  | .write entry => { s with written := s.written ++ [entry] }
  | .listen i kind react => s.change i (Handle.listen kind react)
  | .closeWith i closer => s.change i fun h => { h with closer := some closer }
  | .close i => s.changeThen i Handle.close
  | .notify i n => s.changeThen i (Handle.notify n)
  | .share i => s.change i Handle.share
  | .release i => s.change i Handle.release

/-- The next command carried out. -/
def step (s : Subscriptions ε) : Subscriptions ε :=
  match s.waiting with
  | [] => s
  | c :: rest => carryOut { s with waiting := rest } c

/-- At most a number of commands carried out. -/
def settle : Nat → Subscriptions ε → Subscriptions ε
  | 0, s => s
  | n + 1, s => if s.waiting.isEmpty then s else settle n s.step

/-- How many steps are allowed for the commands that wait. -/
def allowance (s : Subscriptions ε) : Nat :=
  let listeners := s.handles.foldl (fun n h => n + h.listeners.length) 0
  64 * (s.waiting.length + s.handles.length + listeners + 1)

/-- Commands carried out with all that follows from them. -/
def perform (cs : List (Command ε)) (s : Subscriptions ε) : Subscriptions ε :=
  let s := { s with waiting := s.waiting ++ cs }
  s.settle s.allowance

/-! ### What runs do -/

theorem step_of_idle {s : Subscriptions ε} (h : s.waiting = []) : s.step = s := by
  simp [step, h]

/-- Where nothing waits, nothing happens. -/
theorem settle_of_idle {s : Subscriptions ε} (h : s.waiting = []) (n : Nat) : s.settle n = s := by
  cases n <;> simp [settle, h]

theorem settle_succ (n : Nat) (s : Subscriptions ε) : s.settle (n + 1) = s.step.settle n := by
  by_cases h : s.waiting = []
  · rw [settle_of_idle h, step_of_idle h, settle_of_idle h]
  · simp [settle, h]

/-- A run can be cut anywhere. -/
theorem settle_add (m n : Nat) (s : Subscriptions ε) :
    s.settle (m + n) = (s.settle m).settle n := by
  induction m generalizing s with
  | zero => simp [settle]
  | succ m ih => rw [Nat.add_right_comm, settle_succ, settle_succ, ih]

end Subscriptions

end FieldQuery
