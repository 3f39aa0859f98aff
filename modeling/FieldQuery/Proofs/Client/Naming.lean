/-
**Names of operations.**

The name of an operation goes out twice, in the text of the query and beside it, and the other side
takes the second to tell which operation of the text is meant.  A configuration gives one name for
both.  It is copied into the client, which writes it into queries, and into both endpoints, which
send it along; and a name that is given to the client later reaches the client alone.  So it depends
on the names that were given whether the two agree.  What goes out is known in any case: the text
has the name that was given last, and what is beside it has the configured one.

Main definitions:

* `Adjustment`, `Remote.adjusted` — what may be changed about a client, and a client after several
  changes;
* `Adjustment.givenName?` — the name that was given last;
* `CompiledQuery.IsNamed` — a query has a name in its text;
* `Remote.Sends` — what goes out for a query, over each of the ways, has a name beside the text.

Main results:

* `Remote.adjusted_eq` — changes reach the client and no endpoint;
* `Remote.sends_name` — an endpoint sends its own name, whatever the text says;
* `Remote.sends_name_of_ofConfig` — **the text has the name given last, and beside it stands the
  configured one**;
* `Remote.sends_other_name` — the two can differ.
-/

import Mathlib.Data.List.Induction
import FieldQuery.Client.Remote
import FieldQuery.Proofs.Query.Collection
import FieldQuery.Proofs.Subscription.Conversation
import FieldQuery.Proofs.Transport.Request

set_option autoImplicit false

namespace FieldQuery

/-! ### Adjustments -/

/-- What may be changed about a client that a configuration describes. -/
inductive Adjustment where
  | coders (coders : Coders)
  | name (name : String)

namespace Adjustment

/-- The name that is given. -/
def name? : Adjustment → Option String
  | coders _ => none
  | name n => some n

/-- The name that was given last. -/
def givenName? (as : List Adjustment) : Option String := (as.filterMap name?).getLast?

theorem givenName?_concat (as : List Adjustment) (a : Adjustment) :
    givenName? (as ++ [a]) = a.name?.or (givenName? as) := by
  rw [givenName?, List.filterMap_append]
  cases h : a.name? <;> simp [givenName?, h]

end Adjustment

namespace Remote

/-- A client after a change. -/
def adjust (r : Remote) : Adjustment → Remote
  | .coders coders => r.withCoders coders
  | .name name => r.withOperationName name

/-- A client after several changes, one after another. -/
def adjusted (r : Remote) (as : List Adjustment) : Remote := as.foldl adjust r

/-- A change leaves the endpoints as they are, and a name that is given replaces that of the
client. -/
theorem adjust_eq (r : Remote) (a : Adjustment) :
    (r.adjust a).http = r.http ∧ (r.adjust a).socket = r.socket ∧
      (r.adjust a).client.operationName = a.name?.or r.client.operationName := by
  cases a <;> exact ⟨rfl, rfl, rfl⟩

/-- **Changes reach the client and no endpoint**, and of the names that are given the last
counts. -/
theorem adjusted_eq (r : Remote) (as : List Adjustment) :
    (r.adjusted as).http = r.http ∧ (r.adjusted as).socket = r.socket ∧
      (r.adjusted as).client.operationName =
        (Adjustment.givenName? as).or r.client.operationName := by
  induction as using List.reverseRecOn with
  | nil => exact ⟨rfl, rfl, rfl⟩
  | append_singleton as a ih =>
    obtain ⟨hhttp, hsocket, hname⟩ := ih
    obtain ⟨hhttp', hsocket', hname'⟩ := adjust_eq (r.adjusted as) a
    have hlast : r.adjusted (as ++ [a]) = (r.adjusted as).adjust a :=
      List.foldl_concat adjust r a as
    rw [hlast, Adjustment.givenName?_concat, Option.or_assoc, ← hname]
    exact ⟨hhttp'.trans hhttp, hsocket'.trans hsocket, hname'⟩

end Remote

/-! ### What goes out -/

/-- The query has the name in its text, between the operation and what is declared, or has none
there. -/
def CompiledQuery.IsNamed (q : CompiledQuery) (operation : Operation) (s : SelectionSet)
    (name : Option String) : Prop :=
  ∃ body, q.text =
    SelectionSet.head operation.name name q.declared s.directives ++ " " ++ body

/-- A query that a client compiles has the name of the client. -/
theorem Client.isNamed_of_compile {c : Client} {operation : Operation} {s : SelectionSet}
    {q : CompiledQuery} (h : c.compile operation s = .ok q) :
    q.IsNamed operation s c.operationName := by
  rw [Client.compile, Failure.lift] at h
  cases hcompile : s.compile c.schema c.coders c.operationName operation.name with
  | error e =>
    rw [hcompile] at h
    cases h
  | ok q' =>
    rw [hcompile] at h
    cases h
    exact ⟨_, (SelectionSet.of_compile_eq_ok hcompile).2.2⟩

/-- The only query that a session sends is the one that it was begun with. -/
theorem Session.eq_of_subscribe_mem {request payload : Request} {as : List Arrival} {id : String}
    (h : .subscribe id payload ∈ sent (deeds request as)) : payload = request := by
  have hpongs : ∀ ms, ClientMessage.subscribe id payload ∉ pongs ms := by
    intro ms hm
    obtain ⟨m, -, hpong⟩ := List.mem_filterMap.1 hm
    cases m <;> cases hpong
  rw [deeds_eq, sent_append, sent_append, List.mem_append, List.mem_append] at h
  rcases h with (h | h) | h
  · rw [sent_send, sent_map_send, List.mem_cons] at h
    rcases h with h | h
    · cases h
    · exact absurd h (hpongs _)
  · -- only here, after the acknowledgement, a query is sent
    split at h
    · rw [sent_append, opening, sent_send, sent_tell, sent_nil, sent_replies, List.mem_append,
        List.mem_singleton] at h
      rcases h with h | h
      · cases h
        rfl
      · exact absurd h (hpongs _)
    · cases h
  · rw [sent_lastDeeds] at h
    split at h
    · obtain h := List.mem_singleton.1 h
      cases h
    · cases h

namespace Remote

/-- What goes out for a query, by a request of either method or in a session, carries the query and
has the name beside it. -/
structure Sends (r : Remote) (q : CompiledQuery) (name : Option String) : Prop where
  /-- Every request that can be built carries the query with the name. -/
  request : ∀ values request, r.http.request q.text values = .ok request →
    ∃ address, Url.read? r.http.address = some address ∧
      request.Carries address q.text values name
  /-- Every query that is sent in a session is this one, with the name. -/
  session : ∀ as key payload,
    .subscribe key payload ∈ Session.sent (Session.deeds (r.socket.document q.text) as) →
      ∃ members, payload.toJson = .object members ∧
        Request.Says Json.string id members q.text .empty name

/-- **An endpoint sends its own name**, whatever the text says. -/
theorem sends_name {r : Remote} {name : Option String} (hhttp : r.http.operationName = name)
    (hsocket : r.socket.operationName = name) (q : CompiledQuery) : r.Sends q name where
  request values request h := by
    obtain ⟨address, haddress, -, hcarries⟩ := HttpEndpoint.carries_of_request h
    rw [hhttp] at hcarries
    exact ⟨address, haddress, hcarries⟩
  session as key payload h := by
    obtain rfl := Session.eq_of_subscribe_mem h
    obtain ⟨members, hmembers, hsays⟩ := (r.socket.document q.text).says_toJson
    rw [SocketEndpoint.document, hsocket] at hsays
    exact ⟨members, hmembers, hsays⟩

/-- **The text has the name given last, and beside it stands the configured one.**  Whatever is
changed about a client that a configuration describes, a query that it compiles has the name in its
text that was given last, or else the configured one, and goes out with the configured one beside
it.  So what stands beside the text is nothing, or the name in the text, exactly if no name is
configured or no other one was given last. -/
theorem sends_name_of_ofConfig {schema : Schema} {c : Config} {r : Remote}
    (h : ofConfig schema c = .ok r) (as : List Adjustment) {operation : Operation}
    {s : SelectionSet} {q : CompiledQuery}
    (hq : (r.adjusted as).client.compile operation s = .ok q) :
    q.IsNamed operation s ((Adjustment.givenName? as).or c.operationName) ∧
      (r.adjusted as).Sends q c.operationName ∧
      ((c.operationName = none ∨
          c.operationName = (Adjustment.givenName? as).or c.operationName) ↔
        c.operationName = none ∨
          ∀ n, Adjustment.givenName? as = some n → c.operationName = some n) := by
  obtain ⟨hclient, hconfigured, hsocket⟩ := operationName_ofConfig h
  obtain ⟨hhttpKept, hsocketKept, hname⟩ := adjusted_eq r as
  have hnamed := Client.isNamed_of_compile hq
  rw [hname, hclient] at hnamed
  refine ⟨hnamed, sends_name ?_ ?_ q, ?_⟩
  · rw [hhttpKept, hconfigured]
  · rw [hsocketKept, hsocket]
  · cases Adjustment.givenName? as with
    | none => simp
    | some n => simp

/-! ### A name of its own -/

/-- A schema in which one can ask for the time. -/
def clockSchema : Schema :=
  ⟨.ofEntries [("query", "Query")], .empty,
    .ofEntries [("Query", .fields (.ofEntries [("now", "String")]))]⟩

/-- The time. -/
def time : SelectionSet := SelectionSet.empty.withField "now"

/-- A configuration that names the operation. -/
def clockConfig (method : Method) : Config :=
  ⟨"http://127.0.0.1:4000/g", some "ws://127.0.0.1:4000/g", method, .empty, some "Configured"⟩

/-- The client that this configuration describes. -/
def clock (method : Method) : Remote :=
  ⟨⟨clockSchema, .empty, some "Configured"⟩,
    ⟨"http://127.0.0.1:4000/g", method, .empty, some "Configured"⟩,
    ⟨"ws://127.0.0.1:4000/g", [], some "Configured"⟩⟩

theorem ofConfig_clock (method : Method) :
    ofConfig clockSchema (clockConfig method) = .ok (clock method) := rfl

/-- Where the name given last is the configured one, text and address have the same name. -/
theorem sends_name_clock :
    ofConfig clockSchema (clockConfig .get) = .ok (clock .get) ∧
    ∃ q, ((clock .get).adjusted [.name "Other", .coders .empty, .name "Configured"]).client.compile
          .query time = .ok q ∧
      q.text = "query Configured \x7b now \x7d" ∧
      ((clock .get).adjusted [.name "Other", .coders .empty, .name "Configured"]).Sends q
        (some "Configured") ∧
      q.IsNamed .query time (some "Configured") := by
  have hq : ((clock .get).adjusted
      [.name "Other", .coders .empty, .name "Configured"]).client.compile .query time = .ok ⟨"query Configured \x7b now \x7d", .empty⟩ := by
    decide +kernel
  obtain ⟨hnamed, hsends, -⟩ := sends_name_of_ofConfig (ofConfig_clock .get) _ hq
  exact ⟨ofConfig_clock .get, _, hq, rfl, hsends, hnamed⟩

/-- **The two can differ.**  A name that is given to a client with a configured one is in the text,
and the request has the configured one beside it. -/
theorem sends_other_name :
    ofConfig clockSchema (clockConfig .post) = .ok (clock .post) ∧
    (∃ q request,
      ((clock .post).adjusted [.name "Other"]).client.compile .query time = .ok q ∧
      q.text = "query Other \x7b now \x7d" ∧
      ((clock .post).adjusted [.name "Other"]).http.request q.text .empty = .ok request ∧
      request.body = "\x7b\"query\":\"query Other \x7b now \x7d\"," ++
        "\"operationName\":\"Configured\"\x7d") ∧
    ¬ ∀ (schema : Schema) (c : Config) (r : Remote) (as : List Adjustment) (operation : Operation)
        (s : SelectionSet) (q : CompiledQuery) (values : Dictionary Json) (request : HttpRequest)
        (address : Url) (name : Option String),
      ofConfig schema c = .ok r → (r.adjusted as).client.compile operation s = .ok q →
      (r.adjusted as).http.request q.text values = .ok request →
      request.Carries address q.text values name → name = none ∨ q.IsNamed operation s name := by
  have hq : ((clock .post).adjusted [.name "Other"]).client.compile .query time =
      .ok ⟨"query Other \x7b now \x7d", .empty⟩ := by
    decide +kernel
  have hrequest : ((clock .post).adjusted [.name "Other"]).http.request
      "query Other \x7b now \x7d" .empty =
        .ok ⟨⟨false, "127.0.0.1", 4000, [['g']], none⟩, .post,
          .ofEntries [("content-type", "application/json")],
          "\x7b\"query\":\"query Other \x7b now \x7d\",\"operationName\":\"Configured\"\x7d"⟩ := by
    decide +kernel
  refine ⟨ofConfig_clock .post, ⟨_, _, hq, rfl, hrequest, rfl⟩, fun hall => ?_⟩
  obtain ⟨address, -, -, hcarries⟩ := HttpEndpoint.carries_of_request hrequest
  obtain hnone | ⟨body, htext⟩ := hall _ _ _ _ _ _ _ _ _ _ _ (ofConfig_clock .post) hq hrequest
    hcarries
  · cases hnone
  · have hhead :
        SelectionSet.head "query" (some "Configured") .empty none = "query Configured" := by
      decide
    -- the texts differ in the first letter of the name
    have hletter : ("query Configured" ++ " " ++ body).toList[6]? = some 'C' := by
      rw [String.toList_append, String.toList_append, List.append_assoc]
      rfl
    have hsame : "query Other \x7b now \x7d" = "query Configured" ++ " " ++ body := by
      rw [← hhead]
      exact htext
    rw [← hsame] at hletter
    exact absurd hletter (by decide)

end Remote

end FieldQuery
