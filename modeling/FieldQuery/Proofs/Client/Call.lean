/-
**Calls, from the query to the data.**

A call can be stopped at four places: the query may not compile, the other side may answer with a
status or a body that is no reply, the reply may report errors, and its data may not decode.  The
order is fixed, and what stops a call is told with all that is known by then: a response that is no
reply with its status and body, a reply with errors as a whole.  The network is anyone who answers
requests, so nothing about the other side is taken for granted; a record of what it was asked tells
how often a call sends something, and what.

Main definitions:

* `Web.recorded`, `Remote.call` — a network that keeps a record of the requests, and a call over it;
* `Remote.Concludes` — what becomes of a call that was answered.

Main results:

* `Remote.run_execute` — over any network a call is one request, or none;
* `Remote.concludes_answered` — what a response comes to;
* `Remote.call_loses_nothing` — **a call succeeds exactly when everything did**, and what is
  rejected is told in full.
-/

import FieldQuery.Client.Remote
import FieldQuery.Proofs.Query.Encoding
import FieldQuery.Proofs.Transport.Reply
import FieldQuery.Proofs.Transport.Request

set_option autoImplicit false

namespace FieldQuery

namespace Remote

/-! ### One request or none -/

/-- What a response to a call comes to. -/
def answered (r : Remote) (operation : Operation) (s : SelectionSet) (response : HttpResponse) :
    Except Failure Json :=
  response.reply.bind (r.client.conclude operation s)

/-- **Over any network a call is one request, or none**: the query has to compile and the request
has to be one, and nothing is sent before or after it. -/
theorem run_execute {m : Type → Type} [Monad m] [LawfulMonad m] (web : Web m) (r : Remote)
    (operation : Operation) (s : SelectionSet) (values : Dictionary Json) :
    (r.execute web operation s values).run =
      match (r.client.compile operation s).bind fun q => r.http.request q.text values with
      | .error f => pure (.error f)
      | .ok request => (fun x => x.bind (r.answered operation s)) <$> (web request).run := by
  unfold execute Client.execute HttpEndpoint.send
  cases hcompile : r.client.compile operation s with
  | error f => simp [Except.bind, ExceptT.run_bind]
  | ok q =>
    cases hrequest : r.http.request q.text values with
    | error f => simp [Except.bind, hrequest, ExceptT.run_bind]
    | ok request =>
      simp only [Except.bind, hrequest, ExceptT.run_bind, ExceptT.run_mk, pure_bind,
        map_eq_pure_bind, bind_assoc]
      refine bind_congr fun x => ?_
      cases x with
      | error f => simp
      | ok response =>
        simp only [answered]
        cases response.reply <;> rfl

end Remote

/-- A network that gives an answer to every request, and keeps a record of the requests. -/
def Web.recorded (answer : HttpRequest → Except Failure HttpResponse) :
    Web (StateM (List HttpRequest)) :=
  fun request => ExceptT.mk fun sent => (answer request, sent ++ [request])

namespace Remote

/-- The result of a call over a network that answers, and the record of the requests after it. -/
def call (answer : HttpRequest → Except Failure HttpResponse) (r : Remote) (operation : Operation)
    (s : SelectionSet) (values : Dictionary Json) (sent : List HttpRequest) :
    Except Failure Json × List HttpRequest :=
  (r.execute (Web.recorded answer) operation s values).run.run sent

theorem call_eq (answer : HttpRequest → Except Failure HttpResponse) (r : Remote)
    (operation : Operation) (s : SelectionSet) (values : Dictionary Json)
    (sent : List HttpRequest) :
    r.call answer operation s values sent =
      match (r.client.compile operation s).bind fun q => r.http.request q.text values with
      | .error f => (.error f, sent)
      | .ok request => ((answer request).bind (r.answered operation s), sent ++ [request]) := by
  rw [call, run_execute]
  split <;> rfl

/-! ### What a response comes to -/

/-- What becomes of a call that was answered with a response. -/
structure Concludes (r : Remote) (operation : Operation) (s : SelectionSet)
    (response : HttpResponse) (result : Except Failure Json) : Prop where
  /-- The call succeeds exactly if the status says success, the body is a reply without errors, and
  its data can be decoded; null stands for data that is not there. -/
  ok_iff : ∀ d, result = .ok d ↔ response.isSuccess = true ∧
    ∃ reply, Reply.read response.text = .ok reply ∧
      (Reply.given? response.text "errors" = none ∨
        Reply.given? response.text "errors" = some .null) ∧
      r.client.decode operation s reply.dataOrNull = .ok d
  /-- A reply with errors is rejected and kept as a whole, even if the list of them is empty. -/
  rejected : ∀ reply errors, response.isSuccess = true → Reply.read response.text = .ok reply →
    reply.errors = some errors → result = .error (.rejected reply)
  /-- Data that cannot be decoded is told with the reason. -/
  undecoded : ∀ reply e, response.isSuccess = true → Reply.read response.text = .ok reply →
    reply.errors = none → r.client.decode operation s reply.dataOrNull = .error e →
      result = .error (.decoding e)
  /-- Any other response is told with its status and its body: the document that the body spells,
  or else its text. -/
  status : (response.isSuccess = false ∨ ∃ e, Reply.read response.text = .error e) →
    ∃ body, result = .error (.status response.status body) ∧
      (∀ v, Json.read response.text = .ok v → body = v) ∧
      ∀ e, Json.read response.text = .error e → body = .string response.text

/-- The document of a response is what its body spells, or else the text of the body. -/
theorem document_spec (response : HttpResponse) :
    (∀ v, Json.read response.text = .ok v → response.document = v) ∧
      ∀ e, Json.read response.text = .error e → response.document = .string response.text := by
  unfold HttpResponse.document
  constructor
  · intro v h
    rw [h]
    rfl
  · intro e h
    rw [h]
    rfl

/-- A response that is no reply comes to its status and its document. -/
theorem answered_of_no_reply (r : Remote) (operation : Operation) (s : SelectionSet)
    {response : HttpResponse}
    (h : response.isSuccess = false ∨ ∃ e, Reply.read response.text = .error e) :
    r.answered operation s response = .error response.failure := by
  have hreply : response.reply = .error response.failure := by
    cases hsuccess : response.isSuccess with
    | false => exact HttpResponse.reply_of_failure hsuccess
    | true =>
      obtain ⟨e, he⟩ := h.resolve_left (by simp [hsuccess])
      rw [HttpResponse.reply, if_pos hsuccess, he]
      rfl
  rw [answered, hreply]
  rfl

/-- A reply comes to what the client makes of it. -/
theorem answered_of_reply (r : Remote) (operation : Operation) (s : SelectionSet)
    {response : HttpResponse} {reply : Reply} (hsuccess : response.isSuccess = true)
    (hread : Reply.read response.text = .ok reply) :
    r.answered operation s response = r.client.conclude operation s reply := by
  rw [answered, HttpResponse.reply_of_read hsuccess hread]
  rfl

/-- **What a response comes to.** -/
theorem concludes_answered (r : Remote) (operation : Operation) (s : SelectionSet)
    (response : HttpResponse) :
    r.Concludes operation s response (r.answered operation s response) where
  ok_iff d := by
    constructor
    · intro h
      cases hsuccess : response.isSuccess with
      | false =>
        rw [answered_of_no_reply r operation s (.inl hsuccess)] at h
        cases h
      | true =>
        cases hread : Reply.read response.text with
        | error e =>
          rw [answered_of_no_reply r operation s (.inr ⟨e, hread⟩)] at h
          cases h
        | ok reply =>
          rw [answered_of_reply r operation s hsuccess hread] at h
          cases herrors : reply.errors with
          | some errors =>
            rw [Client.conclude_of_errors _ _ _ herrors] at h
            cases h
          | none =>
            rw [Client.conclude_of_no_errors _ _ _ herrors] at h
            refine ⟨rfl, reply, rfl, (Reply.errors_eq_none_iff hread).1 herrors, ?_⟩
            cases hdecode : r.client.decode operation s reply.dataOrNull with
            | error e =>
              rw [hdecode] at h
              cases h
            | ok x =>
              rw [hdecode] at h
              cases h
              rfl
    · rintro ⟨hsuccess, reply, hread, hgiven, hdecode⟩
      have herrors := (Reply.errors_eq_none_iff hread).2 hgiven
      rw [answered_of_reply r operation s hsuccess hread,
        Client.conclude_of_no_errors _ _ _ herrors, hdecode]
      rfl
  rejected reply errors hsuccess hread herrors := by
    rw [answered_of_reply r operation s hsuccess hread]
    exact Client.conclude_of_errors _ _ _ herrors
  undecoded reply e hsuccess hread herrors hdecode := by
    rw [answered_of_reply r operation s hsuccess hread,
      Client.conclude_of_no_errors _ _ _ herrors, hdecode]
    rfl
  status h := ⟨response.document, answered_of_no_reply r operation s h, document_spec response⟩

/-! ### Calls -/

/-- Whatever the decoders are, a query compiles alike. -/
theorem compile_withCoders (r : Remote) {coders : Coders}
    (h : Argument.EncodeAlike r.client.coders coders) (operation : Operation) (s : SelectionSet) :
    (r.withCoders coders).client.compile operation s = r.client.compile operation s :=
  congrArg (Failure.lift .query) (SelectionSet.compile_congr h _ _ s)

/-- **A call succeeds exactly when everything did.**  A query that does not compile is not sent.
Any other is sent once, with its text and the values of its variables as they are, and what the
response comes to is the result of the call.  A reply with errors is rejected by every client that
writes the query alike, whatever its decoders do. -/
theorem call_loses_nothing (answer : HttpRequest → Except Failure HttpResponse) (r : Remote)
    (operation : Operation) (s : SelectionSet) (values : Dictionary Json)
    (sent : List HttpRequest) :
    (∀ f, r.client.compile operation s = .error f →
      r.call answer operation s values sent = (.error f, sent)) ∧
    ∀ q request response, r.client.compile operation s = .ok q →
      r.http.request q.text values = .ok request → answer request = .ok response →
      (∃ address, Url.read? r.http.address = some address ∧
        request.Carries address q.text values r.http.operationName) ∧
      (r.call answer operation s values sent).2 = sent ++ [request] ∧
      r.Concludes operation s response (r.call answer operation s values sent).1 ∧
      ∀ reply errors, response.isSuccess = true → Reply.read response.text = .ok reply →
        reply.errors = some errors →
          ∀ coders, Argument.EncodeAlike r.client.coders coders →
            (r.withCoders coders).call answer operation s values sent =
              (.error (.rejected reply), sent ++ [request]) := by
  constructor
  · intro f hcompile
    rw [call_eq, hcompile]
    rfl
  · intro q request response hcompile hrequest hanswer
    -- the request does not depend on the decoders, so all these clients send the same one
    have hcall : ∀ coders, Argument.EncodeAlike r.client.coders coders →
        (r.withCoders coders).call answer operation s values sent =
          ((r.withCoders coders).answered operation s response, sent ++ [request]) := by
      intro coders halike
      have hhttp : (r.withCoders coders).http.request q.text values = .ok request := hrequest
      rw [call_eq, compile_withCoders r halike, hcompile, Except.bind, hhttp]
      dsimp only
      rw [hanswer]
      rfl
    have hself := hcall r.client.coders fun _ _ _ => rfl
    obtain ⟨address, haddress, -, hcarries⟩ := HttpEndpoint.carries_of_request hrequest
    refine ⟨⟨address, haddress, hcarries⟩, congrArg Prod.snd hself, ?_, ?_⟩
    · rw [show r.call answer operation s values sent = _ from hself]
      exact concludes_answered r operation s response
    · intro reply errors hsuccess hread herrors coders halike
      rw [hcall coders halike,
        (concludes_answered (r.withCoders coders) operation s response).rejected reply errors
          hsuccess hread herrors]

/-! ### The supply of a token -/

/-- A client to whom a supply is a number that is sent as a string. -/
def supplyRemote : Remote where
  client :=
    ⟨⟨.ofEntries [("query", "Query")], .empty,
      .ofEntries [("Query", .fields (.ofEntries [("supply", "numeric")])),
        ("numeric", .scalar "numeric")]⟩, SelectionSet.numericCoders, none⟩
  http := ⟨"http://127.0.0.1:4000/g", .post, .empty, none⟩
  socket := ⟨"ws://127.0.0.1:4000/g", [], none⟩

/-- The supply. -/
def supply : SelectionSet := SelectionSet.empty.withField "supply"

/-- What is posted for it. -/
def supplyRequest : HttpRequest where
  url := ⟨false, "127.0.0.1", 4000, [['g']], none⟩
  method := .post
  headers := .ofEntries [("content-type", "application/json")]
  body := "\x7b\"query\":\"query \x7b supply \x7d\"\x7d"

/-- The data alone. -/
def supplyReply : String := "\x7b\"data\":\x7b\"supply\":\"7\"\x7d\x7d"

/-- The same data with an error that came too late to leave them out. -/
def lateReply : String :=
  "\x7b\"data\":\x7b\"supply\":\"7\"\x7d,\"errors\":[\x7b\"message\":\"late\"\x7d]\x7d"

/-- A response of success with a text in its body. -/
def accepted (text : String) : HttpResponse := ⟨200, text.toList.flatMap String.utf8EncodeChar⟩

/-- Data that come alone are decoded; with an error beside them they are rejected, and told as they
came, by all clients that write the query alike.  Either takes one request. -/
theorem call_loses_nothing_supply :
    supplyRemote.call (fun _ => .ok (accepted supplyReply)) .query supply .empty [] =
      (.ok (.object [("supply", .number (.whole ⟨7, by decide, by decide⟩))]), [supplyRequest]) ∧
    ∀ coders, Argument.EncodeAlike SelectionSet.numericCoders coders →
      (supplyRemote.withCoders coders).call (fun _ => .ok (accepted lateReply)) .query supply
          .empty [] =
        (.error (.rejected ⟨some (.object [("supply", .string "7")]),
          some [⟨"late", none, none, none⟩], none⟩), [supplyRequest]) := by
  have hcompile : supplyRemote.client.compile .query supply =
      .ok ⟨"query \x7b supply \x7d", .empty⟩ := by
    decide +kernel
  have hrequest : supplyRemote.http.request "query \x7b supply \x7d" .empty =
      .ok supplyRequest := by
    decide +kernel
  have hread : Reply.read (accepted supplyReply).text =
      .ok ⟨some (.object [("supply", .string "7")]), none, none⟩ := by
    decide +kernel
  have hlate : Reply.read (accepted lateReply).text =
      .ok ⟨some (.object [("supply", .string "7")]), some [⟨"late", none, none, none⟩], none⟩ := by
    decide +kernel
  have hdecode : supplyRemote.client.decode .query supply (.object [("supply", .string "7")]) =
      .ok (.object [("supply", .number (.whole ⟨7, by decide, by decide⟩))]) := by
    decide +kernel
  constructor
  · obtain ⟨-, hsent, hconcludes, -⟩ := (call_loses_nothing (fun _ => .ok (accepted supplyReply))
      supplyRemote .query supply .empty []).2 _ _ _ hcompile hrequest rfl
    have hresult := (hconcludes.ok_iff _).mpr
      ⟨rfl, _, hread, (Reply.errors_eq_none_iff hread).mp rfl, hdecode⟩
    exact Prod.ext hresult hsent
  · obtain ⟨-, -, -, hrejected⟩ := (call_loses_nothing (fun _ => .ok (accepted lateReply))
      supplyRemote .query supply .empty []).2 _ _ _ hcompile hrequest rfl
    exact hrejected _ _ rfl hlate rfl

end Remote

end FieldQuery
