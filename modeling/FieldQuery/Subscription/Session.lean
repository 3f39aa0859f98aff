/-
**Sessions.**

A session is one subscription on one connection.  The client greets the other side and waits to be
acknowledged; then it sends its query, and from then on passes on what arrives, until either side
ends the session.  Pings are answered at any time.  Anything else that comes before the
acknowledgement ends the session with a failure, as does a message that cannot be read.

Main definitions:

* `Arrival` — what a session has to react to;
* `Session.Phase` — where a session stands;
* `Session.Effect` — what a session does;
* `Session.react` — what an arrival does to a session;
* `Session.trace` — what a session does about several arrivals, one after another.

Main results:

* `Session.react_ended` — a session that has ended does nothing more;
* `Session.trace_append` — a trace continues where it was left.
-/

import FieldQuery.Subscription.Handle

set_option autoImplicit false

namespace FieldQuery

/-- What a session has to react to: what arrives on its connection, and the wish to stop. -/
inductive Arrival where
  | text (text : String)
  | bytes (bytes : List UInt8)
  | control
  | closing
  | broken (fault : ConnectFault)
  | stop
deriving DecidableEq

namespace Session

/-- Where a session stands. -/
inductive Phase where
  | awaiting
  | streaming
  | ended
deriving DecidableEq, Repr

/-- What a session does: it sends a message, tells its listeners something, or reports that it has
failed. -/
inductive Effect where
  | send (message : ClientMessage)
  | tell (notice : Notice)
  | report (failure : Failure)
deriving DecidableEq

/-- The identifier of the only subscription on a connection. -/
def subscriptionId : String := "1"

/-! ### Beginning and ending -/

/-- What a session does first. -/
def greeting : List Effect := [.send (.connectionInit none)]

/-- The end of a session. -/
def farewell : List Effect := [.tell .closed]

/-- The end of a session that has failed. -/
def failing (f : Failure) : List Effect := .report f :: .tell (.error f) :: farewell

/-! ### Messages -/

/-- What a reply in a stream says. -/
def noticeOf (reply : Reply) : Notice :=
  match reply.errors with
  | some errors => .error (.notified (Reply.errorsJson errors))
  | none => .message reply.dataOrNull

/-- What a message does before the session is acknowledged. -/
def receiveAwaiting (request : Request) : ServerMessage → Phase × List Effect
  | .connectionAck _ => (.streaming, [.send (.subscribe subscriptionId request), .tell .opened])
  | .ping payload => (.awaiting, [.send (.pong payload)])
  | m => (.ended, failing (.unacknowledged m))

/-- What a message does once the session is acknowledged. -/
def receiveStreaming : ServerMessage → Phase × List Effect
  | .next _ reply => (.streaming, [.tell (noticeOf reply)])
  | .error _ payload => (.streaming, [.tell (.error (.notified payload))])
  | .ping payload => (.streaming, [.send (.pong payload)])
  | .complete _ => (.ended, farewell)
  | .pong _ | .connectionAck _ => (.streaming, [])

/-- What a message does. -/
def receive (request : Request) : Phase → ServerMessage → Phase × List Effect
  | .awaiting, m => receiveAwaiting request m
  | .streaming, m => receiveStreaming m
  | .ended, _ => (.ended, [])

/-- The message that bytes hold; bytes that are no text hold none. -/
def readBytes (bytes : List UInt8) : Except Json.ReadError ServerMessage :=
  match String.fromUTF8? ⟨bytes.toArray⟩ with
  | some text => ServerMessage.read text
  | none => .error (.flawed .malformed)

/-- What a message does that may be unreadable. -/
def receiveRead (request : Request) (phase : Phase) :
    Except Json.ReadError ServerMessage → Phase × List Effect
  | .ok m => receive request phase m
  | .error e => (.ended, failing (.unreadable e))

/-! ### Arrivals -/

/-- What an arrival does to a session that has not ended.  The wish to stop waits until the session
is acknowledged. -/
def reactAlive (request : Request) (phase : Phase) : Arrival → Phase × List Effect
  | .text t => receiveRead request phase (ServerMessage.read t)
  | .bytes bs => receiveRead request phase (readBytes bs)
  | .control => (phase, [])
  | .closing => (.ended, farewell)
  | .broken fault => (.ended, failing (.unconnected fault))
  | .stop =>
    if phase = .streaming then (.ended, .send (.complete subscriptionId) :: farewell)
    else (phase, [])

/-- What an arrival does to a session. -/
def react (request : Request) (phase : Phase) (a : Arrival) : Phase × List Effect :=
  if phase = .ended then (.ended, []) else reactAlive request phase a

/-- What a session does about arrivals, one after another until it ends. -/
def trace (request : Request) : Phase → List Arrival → List (List Effect)
  | .ended, _ => []
  | _, [] => []
  | phase, a :: rest =>
    let (next, effects) := react request phase a
    effects :: trace request next rest

/-- Where a session stands after arrivals. -/
def phaseAfter (request : Request) (phase : Phase) (as : List Arrival) : Phase :=
  as.foldl (fun p a => (react request p a).1) phase

/-- What a session does from beginning to end; if nothing ends it, the other side closes the
connection. -/
def story (request : Request) (as : List Arrival) : List (List Effect) :=
  greeting :: trace request .awaiting (as ++ [.closing])

/-! ### What sessions do -/

/-- A session that has ended does nothing more. -/
theorem react_ended (request : Request) (a : Arrival) : react request .ended a = (.ended, []) := by
  simp [react]

@[simp] theorem trace_ended (request : Request) (as : List Arrival) :
    trace request .ended as = [] := by
  cases as <;> rfl

theorem trace_cons (request : Request) {phase : Phase} (h : phase ≠ .ended) (a : Arrival)
    (as : List Arrival) :
    trace request phase (a :: as) =
      (react request phase a).2 :: trace request (react request phase a).1 as := by
  cases phase with
  | ended => exact absurd rfl h
  | _ => rfl

theorem phaseAfter_ended (request : Request) (as : List Arrival) :
    phaseAfter request .ended as = .ended := by
  induction as with
  | nil => rfl
  | cons a r ih => simpa [phaseAfter, react_ended] using ih

/-- A trace continues where it was left. -/
theorem trace_append (request : Request) (phase : Phase) (as bs : List Arrival) :
    trace request phase (as ++ bs) =
      trace request phase as ++ trace request (phaseAfter request phase as) bs := by
  induction as generalizing phase with
  | nil => cases phase <;> simp [trace, phaseAfter]
  | cons a r ih =>
    by_cases h : phase = .ended
    · subst h
      rw [phaseAfter_ended]
      simp
    · rw [List.cons_append, trace_cons request h, trace_cons request h, ih]
      rfl

/-! ### Sessions and handles -/

/-- The messages that effects send. -/
def sent (effects : List Effect) : List ClientMessage :=
  effects.filterMap fun
    | .send m => some m
    | _ => none

/-- The commands by which effects reach the handle of a session; `report` says what is done about
a failure besides. -/
def commands {ε : Type} (handle : Nat) (report : Failure → List (Command ε)) :
    List Effect → List (Command ε) :=
  List.flatMap fun
    | .send _ => []
    | .tell n => [.notify handle n]
    | .report f => report f

end Session

end FieldQuery
