/-
**Subscribing.**

A client puts two handles between the caller and whoever carries the subscription.  The carrier
tells the outer handle what arrives; the caller listens to the inner one.  Between them stands a
relay that decodes messages on their way in and passes a request to close on its way out.  A
message that cannot be decoded reaches the caller as an error, and the next one is not the worse
for it.

Main definitions:

* `Notice.decodedBy` — a notice with its message decoded;
* `relay` — the commands that join two handles;
* `Client.subscribe` — a subscription begun.

Main results:

* `Notice.kind_decodedBy` — decoding turns a message into a message or an error, and nothing else.
-/

import FieldQuery.Client.Basic
import FieldQuery.Subscription.Run

set_option autoImplicit false

namespace FieldQuery

/-! ### The relay -/

/-- A notice with its message decoded; where that fails, the failure. -/
def Notice.decodedBy (decode : Json → Except DecodeError Json) : Notice → Notice
  | message v =>
    match decode v with
    | .ok x => message x
    | .error e => error (.decoding e)
  | n => n

theorem Notice.kind_decodedBy (decode : Json → Except DecodeError Json) (n : Notice) :
    (n.decodedBy decode).kind = n.kind ∨
      n.kind = .message ∧ (n.decodedBy decode).kind = .error := by
  cases n with
  | message v => cases h : decode v <;> simp [decodedBy, h, kind]
  | _ => exact .inl rfl

/-- What joins an outer handle to an inner one: the inner one closes the outer one, and the outer
one tells the inner one all it hears, messages decoded. -/
def relay {ε : Type} (outer inner : Nat) (decode : Json → Except DecodeError Json) :
    List (Command ε) :=
  .closeWith inner [.close outer] ::
    Notice.Kind.all.map fun kind =>
      .listen outer kind fun n => [.notify inner (n.decodedBy decode)]

/-! ### Subscriptions -/

/-- Work on subscriptions that can fail.  What was done before a failure stays done. -/
abbrev Subscribing (ε : Type) := ExceptT Failure (StateM (Subscriptions ε))

namespace Subscribing

variable {ε : Type}

/-- A new handle. -/
def make : Subscribing ε Nat := fun s => let (i, s) := s.make; (.ok i, s)

/-- Commands carried out. -/
def perform (cs : List (Command ε)) : Subscribing ε Unit := fun s => (.ok (), s.perform cs)

/-- A result that leaves the subscriptions as they are. -/
def lift {α : Type} (r : Except Failure α) : Subscribing ε α := fun s => (r, s)

end Subscribing

/-- Whoever carries a query to the other side and tells a handle what comes back.  `α` is what the
carrier keeps. -/
abbrev Carrier (ε α : Type) := String → Nat → Subscribing ε α

namespace Client

variable {ε α : Type}

/-- A subscription to a selection begun: the number of the handle to listen to, and what the
carrier keeps. -/
def subscribe (carrier : Option (Carrier ε α)) (c : Client) (s : SelectionSet) :
    Subscribing ε (Nat × α) :=
  match carrier with
  | none => Subscribing.lift (.error .noSubscriptions)
  | some carry => do
    let q ← Subscribing.lift (c.compile .subscription s)
    let outer ← Subscribing.make
    let inner ← Subscribing.make
    Subscribing.perform (relay outer inner (c.decode .subscription s))
    let kept ← carry q.text outer
    return (inner, kept)

end Client

end FieldQuery
