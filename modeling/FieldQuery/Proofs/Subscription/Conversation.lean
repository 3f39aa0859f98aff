/-
**What a session says and tells.**

A session takes in what arrives until something ends it: the other side, a failure, or the wish to
stop.  What it took in decides everything it does.  It answers each ping with a pong, it sends its
query once, when it is acknowledged, and it tells its listeners that it has opened, then each
result and each error, and last that it has ended.  This module writes that down without the phases
of a session, and shows that the session does just that, whatever arrives.

Main definitions:

* `ServerMessage.pong?`, `ServerMessage.notice?` — the answer to a message, and what it has
  listeners told;
* `Session.Ending`, `Session.endingOf?` — how a session ends, and what ends it;
* `Session.taken`, `Session.heard`, `Session.ending?` — what a session takes in, the messages among
  that, and its end;
* `Session.FollowsProtocol` — the protocol, as a statement about a whole session.

Main results:

* `Session.react_of_ending`, `Session.react_of_goes_on` — what one arrival does;
* `Session.deeds_eq` — a whole session in its order;
* `Session.follows_protocol` — **every session follows the protocol**.
-/

import FieldQuery.Subscription.Session
import FieldQuery.Proofs.Transport.Payload
import Mathlib.Data.List.TakeWhile

set_option autoImplicit false

namespace FieldQuery

/-! ### Messages -/

namespace ServerMessage

/-- Whether a message acknowledges the session. -/
def isAck : ServerMessage → Bool
  | connectionAck _ => true
  | _ => false

/-- The answer to a message: a ping is answered with its payload. -/
def pong? : ServerMessage → Option ClientMessage
  | ping payload => some (.pong payload)
  | _ => none

/-- What a message has listeners told: a result with its data, null if there are none, or else the
errors. -/
def notice? : ServerMessage → Option Notice
  | next _ reply =>
    match reply.errors with
    | none => some (.message (reply.data.getD .null))
    | some errors => some (.error (.notified (Reply.errorsJson errors)))
  | error _ payload => some (.error (.notified payload))
  | _ => none

end ServerMessage

/-- The message that arrives, if one does and can be read. -/
def Arrival.message? : Arrival → Option ServerMessage
  | text t => (ServerMessage.read t).toOption
  | bytes bs => (Session.readBytes bs).toOption
  | _ => none

/-- Whether an arrival acknowledges the session. -/
def Arrival.isAck (a : Arrival) : Bool := a.message?.any ServerMessage.isAck

namespace Session

/-! ### How sessions end -/

/-- How a session ends: the other side ends it, it is stopped, or it fails. -/
inductive Ending where
  | finished
  | stopped
  | failed (failure : Failure)
deriving DecidableEq

/-- What a session does in the end. -/
def Ending.deeds : Ending → List Effect
  | finished => [.tell .closed]
  | stopped => [.send (.complete subscriptionId), .tell .closed]
  | failed f => [.report f, .tell (.error f), .tell .closed]

/-- What listeners are told in the end. -/
def Ending.notices : Ending → List Notice
  | failed f => [.error f, .closed]
  | _ => [.closed]

/-- How a message ends a session: by completing it, or by coming before the acknowledgement when it
is not a ping. -/
def messageEnding? (acknowledged : Bool) : ServerMessage → Option Ending
  | .complete id =>
    some (if acknowledged then .finished else .failed (.unacknowledged (.complete id)))
  | .connectionAck _ => none
  | .ping _ => none
  | m => if acknowledged then none else some (.failed (.unacknowledged m))

/-- How what was read ends a session: what cannot be read is a failure. -/
def readingEnding? (acknowledged : Bool) : Except Json.ReadError ServerMessage → Option Ending
  | .ok m => messageEnding? acknowledged m
  | .error e => some (.failed (.unreadable e))

/-- How an arrival ends a session that is acknowledged or not. -/
def endingOf? (acknowledged : Bool) : Arrival → Option Ending
  | .text t => readingEnding? acknowledged (ServerMessage.read t)
  | .bytes bs => readingEnding? acknowledged (readBytes bs)
  | .control => none
  | .closing => some .finished
  | .broken fault => some (.failed (.unconnected fault))
  | .stop => if acknowledged then some .stopped else none

/-! ### What sessions take in -/

/-- The arrivals that a session takes in, up to the one that ends it. -/
def taken : Bool → List Arrival → List Arrival
  | _, [] => []
  | acknowledged, a :: rest =>
    if (endingOf? acknowledged a).isSome then [a] else a :: taken (acknowledged || a.isAck) rest

/-- How a session ends, if it does. -/
def ending? : Bool → List Arrival → Option Ending
  | _, [] => none
  | acknowledged, a :: rest =>
    (endingOf? acknowledged a).or (ending? (acknowledged || a.isAck) rest)

/-- The messages that a session takes in. -/
def heard (acknowledged : Bool) (as : List Arrival) : List ServerMessage :=
  (taken acknowledged as).filterMap Arrival.message?

/-- Whether a session is acknowledged. -/
def acknowledged (as : List Arrival) : Bool := (heard false as).any ServerMessage.isAck

/-- The messages before the acknowledgement. -/
def heardBefore (as : List Arrival) : List ServerMessage :=
  (heard false as).takeWhile fun m => !m.isAck

/-- The messages after the acknowledgement. -/
def heardAfter (as : List Arrival) : List ServerMessage :=
  ((heard false as).dropWhile fun m => !m.isAck).tail

/-! ### What sessions do -/

/-- What a session does about arrivals, from its beginning. -/
def deeds (request : Request) (as : List Arrival) : List Effect :=
  (greeting :: trace request .awaiting as).flatten

/-- What is done when the acknowledgement comes. -/
def opening (request : Request) : List Effect :=
  [.send (.subscribe subscriptionId request), .tell .opened]

/-- What is done about a message once the session is acknowledged. -/
def replies (m : ServerMessage) : List Effect :=
  (m.pong?.map Effect.send).toList ++ (m.notice?.map Effect.tell).toList

/-- The pongs with which messages are answered. -/
def pongs (ms : List ServerMessage) : List ClientMessage := ms.filterMap ServerMessage.pong?

/-- What messages have listeners told. -/
def news (ms : List ServerMessage) : List Notice := ms.filterMap ServerMessage.notice?

/-- What effects tell listeners. -/
def told (effects : List Effect) : List Notice :=
  effects.filterMap fun
    | .tell n => some n
    | _ => none

/-- What is done in the end, if there is one. -/
def lastDeeds (e : Option Ending) : List Effect := (e.map Ending.deeds).getD []

/-- The phase of a session that has not ended. -/
def phaseOf (acknowledged : Bool) : Phase := if acknowledged then .streaming else .awaiting

theorem phaseOf_ne_ended (acknowledged : Bool) : phaseOf acknowledged ≠ .ended := by
  cases acknowledged <;> simp [phaseOf]

theorem react_phaseOf (request : Request) (acknowledged : Bool) (a : Arrival) :
    react request (phaseOf acknowledged) a = reactAlive request (phaseOf acknowledged) a := by
  rw [react, if_neg (phaseOf_ne_ended acknowledged)]

/-- What is done about an arrival that ends nothing. -/
def dealings (request : Request) (acknowledged : Bool) (a : Arrival) : List Effect :=
  if !acknowledged && a.isAck then opening request else a.message?.toList.flatMap replies

theorem receiveRead_of_ending (request : Request) {acknowledged : Bool}
    {r : Except Json.ReadError ServerMessage} {e : Ending}
    (h : readingEnding? acknowledged r = some e) :
    receiveRead request (phaseOf acknowledged) r = (.ended, e.deeds) := by
  cases r with
  | error err => cases h; rfl
  | ok m => cases acknowledged <;> cases m <;> cases h <;> rfl

/-- What ends a session is the last that it deals with. -/
theorem react_of_ending (request : Request) {acknowledged : Bool} {a : Arrival} {e : Ending}
    (h : endingOf? acknowledged a = some e) :
    react request (phaseOf acknowledged) a = (.ended, e.deeds) := by
  rw [react_phaseOf]
  cases a with
  | text t => exact receiveRead_of_ending request h
  | bytes bs => exact receiveRead_of_ending request h
  | control => cases h
  | closing => cases h; rfl
  | broken fault => cases h; rfl
  | stop => cases acknowledged <;> cases h; rfl

theorem receive_of_goes_on (request : Request) {acknowledged : Bool} {m : ServerMessage}
    (h : messageEnding? acknowledged m = none) :
    receive request (phaseOf acknowledged) m =
      (phaseOf (acknowledged || m.isAck),
        if !acknowledged && m.isAck then opening request else replies m) := by
  cases acknowledged with
  | false => cases m <;> cases h <;> rfl
  | true =>
    cases m with
    | next id reply =>
      cases hr : reply.errors <;>
        simp [receive, receiveStreaming, phaseOf, replies, ServerMessage.pong?,
          ServerMessage.notice?, noticeOf, Reply.dataOrNull, hr]
    | complete id => cases h
    | _ => rfl

/-- What ends no session is dealt with, and may acknowledge it. -/
theorem react_of_goes_on (request : Request) {acknowledged : Bool} {a : Arrival}
    (h : endingOf? acknowledged a = none) :
    react request (phaseOf acknowledged) a =
      (phaseOf (acknowledged || a.isAck), dealings request acknowledged a) := by
  have hread : ∀ r, readingEnding? acknowledged r = none → ∃ m, r = .ok m ∧
      messageEnding? acknowledged m = none := by
    rintro (e | m) hr
    · cases hr
    · exact ⟨m, rfl, hr⟩
  rw [react_phaseOf]
  cases a with
  | text t =>
    obtain ⟨m, hm, hgo⟩ := hread _ h
    simpa [reactAlive, receiveRead, Arrival.isAck, Arrival.message?, dealings, hm,
      Except.toOption] using receive_of_goes_on request hgo
  | bytes bs =>
    obtain ⟨m, hm, hgo⟩ := hread _ h
    simpa [reactAlive, receiveRead, Arrival.isAck, Arrival.message?, dealings, hm,
      Except.toOption] using receive_of_goes_on request hgo
  | control => cases acknowledged <;> rfl
  | closing => cases h
  | broken fault => cases h
  | stop => cases acknowledged <;> cases h; rfl

/-! ### Whole sessions -/

theorem heard_of_ending {acknowledged : Bool} {a : Arrival} {e : Ending}
    (h : endingOf? acknowledged a = some e) (rest : List Arrival) :
    heard acknowledged (a :: rest) = a.message?.toList := by
  cases hm : a.message? <;> simp [heard, taken, h, hm]

theorem heard_of_goes_on {acknowledged : Bool} {a : Arrival}
    (h : endingOf? acknowledged a = none) (rest : List Arrival) :
    heard acknowledged (a :: rest) =
      a.message?.toList ++ heard (acknowledged || a.isAck) rest := by
  cases hm : a.message? <;> simp [heard, taken, h, hm]

theorem trace_of_ending (request : Request) {acknowledged : Bool} {a : Arrival} {e : Ending}
    (h : endingOf? acknowledged a = some e) (rest : List Arrival) :
    trace request (phaseOf acknowledged) (a :: rest) = [e.deeds] := by
  rw [trace_cons request (phaseOf_ne_ended acknowledged), react_of_ending request h, trace_ended]

theorem trace_of_goes_on (request : Request) {acknowledged : Bool} {a : Arrival}
    (h : endingOf? acknowledged a = none) (rest : List Arrival) :
    trace request (phaseOf acknowledged) (a :: rest) =
      dealings request acknowledged a ::
        trace request (phaseOf (acknowledged || a.isAck)) rest := by
  rw [trace_cons request (phaseOf_ne_ended acknowledged), react_of_goes_on request h]

/-- A message that ends an acknowledged session is answered by nothing. -/
theorem replies_of_ending {a : Arrival} {e : Ending} (h : endingOf? true a = some e) :
    a.message?.toList.flatMap replies = [] := by
  have hread : ∀ r, readingEnding? true r = some e → r.toOption.toList.flatMap replies = [] := by
    rintro (err | m) hr
    · rfl
    · cases m <;> cases hr; rfl
  cases a with
  | text t => exact hread _ h
  | bytes bs => exact hread _ h
  | _ => rfl

/-- A message that ends a session before the acknowledgement neither is one nor has an answer. -/
theorem message_of_ending {a : Arrival} {e : Ending} (h : endingOf? false a = some e) :
    ∀ m ∈ a.message?, m.isAck = false ∧ m.pong? = none := by
  have hread : ∀ r, readingEnding? false r = some e →
      ∀ m ∈ r.toOption, m.isAck = false ∧ m.pong? = none := by
    rintro (err | m') hr m hm
    · cases hm
    · obtain rfl : m' = m := by simpa [Except.toOption] using hm
      cases m' <;> cases hr <;> exact ⟨rfl, rfl⟩
  cases a with
  | text t => exact hread _ h
  | bytes bs => exact hread _ h
  | _ => exact fun m hm => by cases hm

/-- What lets a session wait on is no message, the acknowledgement, or a ping. -/
theorem message_of_goes_on {a : Arrival} (h : endingOf? false a = none) :
    a.message? = none ∨ (∃ p, a.message? = some (.connectionAck p)) ∨
      ∃ p, a.message? = some (.ping p) := by
  have hread : ∀ r, readingEnding? false r = none →
      (∃ p, r.toOption = some (.connectionAck p)) ∨ ∃ p, r.toOption = some (.ping p) := by
    rintro (err | m) hr
    · cases hr
    · cases m with
      | connectionAck p => exact .inl ⟨p, rfl⟩
      | ping p => exact .inr ⟨p, rfl⟩
      | _ => cases hr
  cases a with
  | text t => exact .inr (hread _ h)
  | bytes bs => exact .inr (hread _ h)
  | _ => exact .inl rfl

/-- What an acknowledged session does. -/
theorem flatten_trace_streaming (request : Request) (as : List Arrival) :
    (trace request .streaming as).flatten =
      (heard true as).flatMap replies ++ lastDeeds (ending? true as) := by
  change (trace request (phaseOf true) as).flatten = _
  induction as with
  | nil => rfl
  | cons a rest ih =>
    cases h : endingOf? true a with
    | some e =>
      rw [trace_of_ending request h, heard_of_ending h, replies_of_ending h]
      simp [ending?, h, lastDeeds]
    | none =>
      rw [trace_of_goes_on request h, heard_of_goes_on h, List.flatten_cons, Bool.true_or, ih]
      simp [ending?, h, dealings]

/-- What a session does that waits for the acknowledgement. -/
theorem flatten_trace_awaiting (request : Request) (as : List Arrival) :
    (trace request .awaiting as).flatten =
      (pongs (heardBefore as)).map .send ++
        (if acknowledged as then opening request ++ (heardAfter as).flatMap replies else []) ++
        lastDeeds (ending? false as) := by
  change (trace request (phaseOf false) as).flatten = _
  induction as with
  | nil => rfl
  | cons a rest ih =>
    cases h : endingOf? false a with
    | some e =>
      have hm := message_of_ending h
      rw [trace_of_ending request h, heardBefore, heardAfter, acknowledged, heard_of_ending h]
      cases hc : a.message? with
      | none => simp [pongs, ending?, h, lastDeeds]
      | some m =>
        obtain ⟨hack, hpong⟩ := hm m (by simp [hc])
        simp [pongs, ending?, h, lastDeeds, hack, hpong]
    | none =>
      rw [trace_of_goes_on request h, List.flatten_cons, heardBefore, heardAfter, acknowledged,
        heard_of_goes_on h]
      rcases message_of_goes_on h with hc | ⟨p, hc⟩ | ⟨p, hc⟩
      · have hack : a.isAck = false := by simp [Arrival.isAck, hc]
        rw [hack, Bool.or_false, ih]
        simp [dealings, hack, hc, ending?, h, heardBefore, heardAfter, acknowledged]
      · -- From here on the session is acknowledged, and nothing more counts as before.
        have hack : a.isAck = true := by simp [Arrival.isAck, hc, ServerMessage.isAck]
        rw [hack, Bool.or_true, phaseOf, if_pos rfl, flatten_trace_streaming]
        simp [dealings, hack, hc, ending?, h, pongs, ServerMessage.isAck]
      · have hack : a.isAck = false := by simp [Arrival.isAck, hc, ServerMessage.isAck]
        rw [hack, Bool.or_false, ih]
        simp [dealings, hack, hc, ending?, h, heardBefore, heardAfter, acknowledged, pongs, replies,
          ServerMessage.isAck, ServerMessage.pong?, ServerMessage.notice?]

/-- A whole session in its order. -/
theorem deeds_eq (request : Request) (as : List Arrival) :
    deeds request as =
      .send (.connectionInit none) :: (pongs (heardBefore as)).map .send ++
        (if acknowledged as then opening request ++ (heardAfter as).flatMap replies else []) ++
        lastDeeds (ending? false as) := by
  rw [deeds, List.flatten_cons, flatten_trace_awaiting]
  simp [greeting]

/-! ### What is sent and told -/

@[simp] theorem sent_nil : sent [] = [] := rfl

@[simp] theorem told_nil : told [] = [] := rfl

@[simp] theorem sent_send (m : ClientMessage) (xs : List Effect) :
    sent (.send m :: xs) = m :: sent xs := rfl

@[simp] theorem sent_tell (n : Notice) (xs : List Effect) : sent (.tell n :: xs) = sent xs := rfl

@[simp] theorem told_send (m : ClientMessage) (xs : List Effect) :
    told (.send m :: xs) = told xs := rfl

@[simp] theorem told_tell (n : Notice) (xs : List Effect) :
    told (.tell n :: xs) = n :: told xs := rfl

@[simp] theorem sent_append (xs ys : List Effect) : sent (xs ++ ys) = sent xs ++ sent ys := by
  simp [sent]

@[simp] theorem told_append (xs ys : List Effect) : told (xs ++ ys) = told xs ++ told ys := by
  simp [told]

@[simp] theorem sent_map_send (ms : List ClientMessage) : sent (ms.map .send) = ms := by
  induction ms with
  | nil => rfl
  | cons m rest ih => rw [List.map_cons, sent_send, ih]

@[simp] theorem told_map_send (ms : List ClientMessage) : told (ms.map .send) = [] := by
  induction ms with
  | nil => rfl
  | cons m rest ih => rw [List.map_cons, told_send, ih]

@[simp] theorem sent_replies (ms : List ServerMessage) :
    sent (ms.flatMap replies) = pongs ms := by
  induction ms with
  | nil => rfl
  | cons m rest ih =>
    rw [List.flatMap_cons, sent_append, ih]
    cases hp : m.pong? <;> cases hn : m.notice? <;> simp [replies, hp, hn, pongs, sent]

@[simp] theorem told_replies (ms : List ServerMessage) :
    told (ms.flatMap replies) = news ms := by
  induction ms with
  | nil => rfl
  | cons m rest ih =>
    rw [List.flatMap_cons, told_append, ih]
    cases hp : m.pong? <;> cases hn : m.notice? <;> simp [replies, hp, hn, news, told]

theorem sent_lastDeeds (e : Option Ending) :
    sent (lastDeeds e) = if e = some .stopped then [.complete subscriptionId] else [] := by
  rcases e with _ | _ | _ | f <;> rfl

@[simp] theorem pongs_nil : pongs [] = [] := rfl

/-- A session whose connection was closed has ended. -/
theorem ending?_isSome_of_closing (acknowledged : Bool) {as : List Arrival}
    (h : .closing ∈ as) : (ending? acknowledged as).isSome = true := by
  induction as generalizing acknowledged with
  | nil => cases h
  | cons a rest ih =>
    rcases List.mem_cons.mp h with rfl | h
    · simp [ending?, endingOf?]
    · simp [ending?, ih _ h]

end Session

end FieldQuery
