/-
**Subscriptions and their listeners.**

A subscription tells its listeners when it opens, what it receives, what goes wrong, and when it
ends.  Everybody who deals with a subscription holds a handle to it.  Listeners are called in the
order in which they were registered, and only those that were registered before the notice.  The
end is told once; from then on there is nothing left to close.

A listener answers a notice with commands, which may concern the same handle or another one.  What
the commands do is the matter of `FieldQuery.Subscription.Run`.

Main definitions:

* `Notice` — what listeners are told;
* `Command` — what can be done with handles;
* `Handle` — the listeners of a subscription and what ends it, with `Handle.notify`,
  `Handle.close` and `Handle.listen`.

Main results:

* `Handle.notify_of_ne_closed` — only the end changes a handle;
* `Handle.notify_closed_twice` — the end is told once;
* `Handle.close_twice` — what ends a subscription is done once.
-/

import FieldQuery.Client.Failure

set_option autoImplicit false

namespace FieldQuery

/-! ### Notices -/

/-- What a subscription tells its listeners. -/
inductive Notice where
  | opened
  | message (value : Json)
  | error (failure : Failure)
  | closed
deriving DecidableEq

/-- The kinds of notices. -/
inductive Notice.Kind where
  | opened
  | message
  | error
  | closed
deriving DecidableEq, Repr

/-- The kind of a notice. -/
def Notice.kind : Notice → Kind
  | opened => .opened
  | message _ => .message
  | error _ => .error
  | closed => .closed

/-- All kinds of notices. -/
def Notice.Kind.all : List Kind := [message, error, opened, closed]

/-! ### Commands -/

/-- What can be done with handles.  `ε` is what is written out on the way. -/
inductive Command (ε : Type) where
  | write (entry : ε)
  | listen (handle : Nat) (kind : Notice.Kind) (react : Notice → List (Command ε))
  | closeWith (handle : Nat) (closer : List (Command ε))
  | close (handle : Nat)
  | notify (handle : Nat) (notice : Notice)
  | share (handle : Nat)
  | release (handle : Nat)

instance {ε : Type} : Inhabited (Command ε) := ⟨.close 0⟩

/-- What a listener does when it is told something. -/
abbrev Reaction (ε : Type) := Notice → List (Command ε)

/-! ### Handles -/

/-- The listeners of a subscription in order, what ends it, whether it has ended, and how many hold
on to it. -/
structure Handle (ε : Type) where
  listeners : List (Notice.Kind × Reaction ε)
  closer : Option (List (Command ε))
  closed : Bool
  owners : Nat

namespace Handle

variable {ε : Type}

/-- A handle that somebody holds and nobody listens to. -/
def fresh : Handle ε := ⟨[], none, false, 1⟩

/-- One listener more. -/
def listen (kind : Notice.Kind) (react : Reaction ε) (h : Handle ε) : Handle ε :=
  { h with listeners := h.listeners ++ [(kind, react)] }

/-- The commands with which the listeners of its kind answer a notice. -/
def reactions (n : Notice) (h : Handle ε) : List (Command ε) :=
  (h.listeners.filter fun l => l.1 = n.kind).flatMap fun l => l.2 n

/-- The handle after a notice, and what follows from it.  The end is told once, and leaves nothing
to close. -/
def notify (n : Notice) (h : Handle ε) : Handle ε × List (Command ε) :=
  if n = .closed then
    if h.closed then (h, []) else ({ h with closed := true, closer := none }, h.reactions n)
  else (h, h.reactions n)

/-- The handle after it was asked to close, and what follows from it. -/
def close (h : Handle ε) : Handle ε × List (Command ε) :=
  ({ h with closer := none }, h.closer.getD [])

/-- One owner more. -/
def share (h : Handle ε) : Handle ε := { h with owners := h.owners + 1 }

/-- One owner less. -/
def release (h : Handle ε) : Handle ε := { h with owners := h.owners - 1 }

/-! ### What operations do -/

theorem notify_of_ne_closed {n : Notice} (hn : n ≠ .closed) (h : Handle ε) :
    h.notify n = (h, h.reactions n) := by
  simp [notify, hn]

/-- The end is told once. -/
theorem notify_closed_twice (h : Handle ε) :
    (h.notify .closed).1.notify .closed = ((h.notify .closed).1, []) := by
  cases hc : h.closed <;> simp [notify, hc]

/-- What ends a subscription is done once. -/
theorem close_twice (h : Handle ε) : h.close.1.close = (h.close.1, []) := rfl

end Handle

end FieldQuery
