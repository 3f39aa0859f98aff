/-
**One request, two methods.**

A query that is posted and a query that is asked for with everything in the address have nothing in
common on the wire.  One is a document, with names and texts between quotes and the values of the
variables as a part of it; the other is a form behind the path, in which the same values are a text
that holds a document, and in which almost every character of it is written as its bytes.  The two
are also built apart from each other, each with rules of its own for what to leave out.

They are compared as the other side sees them: the address with its form decoded, and the body as
the document that it is the text of.  What the address had before is kept in front.  What is added
is one named value for each member of the document, in the same order and under the same names, and
it holds the member: a string as it is, and anything else as the text of a document.

Main definitions:

* `Url.parameters` — the named values in an address, decoded;
* `Request.asParameter` — a member of a document as a named value;
* `Config.request` — what a configured client sends for a query, by either method.

Main results:

* `Url.parameters_addPairs` — named values that are added are found behind those that were there;
* `HttpEndpoint.pairs_eq_map` — what is asked for is the document, member by member;
* `Config.headers_of_request` — the headers of either method;
* `Config.asks_what_it_posts` — **both methods carry the same request**.
-/

import Mathlib.Data.List.Basic
import FieldQuery.Proofs.Text.Form
import FieldQuery.Proofs.Transport.Request

set_option autoImplicit false

namespace FieldQuery

/-! ### Named values in an address -/

namespace Url

/-- The named values in an address, as the other side decodes them. -/
def parameters (u : Url) : List (String × String) := Text.readForm (u.query.getD [])

/-- Named values that are added are found behind those that were there. -/
theorem parameters_addPairs (ps : List (String × String)) (u : Url) :
    (u.addPairs ps).parameters = u.parameters ++ ps := by
  unfold parameters addPairs
  cases hq : u.query with
  | none => exact Text.readForm_formPairs ps
  | some q =>
    cases q with
    | nil => exact Text.readForm_formPairs ps
    | cons c q =>
      change Text.readForm (c :: q ++ '&' :: Text.formPairs ps) = Text.readForm (c :: q) ++ ps
      rw [Text.readForm_append, Text.readForm_formPairs]

end Url

/-! ### Members as named values -/

/-- A member of a document as a named value: a string as it is, anything else as the text of a
document. -/
def Request.asParameter : String × Json → String × String
  | (name, .string s) => (name, s)
  | (name, v) => (name, v.compact)

/-- What is asked for is the document that would be posted, member by member. -/
theorem HttpEndpoint.pairs_eq_map (e : HttpEndpoint) (query : String) (values : Dictionary Json) :
    ∃ members, (e.document query values).toJson = .object members ∧
      e.pairs query values = members.map Request.asParameter := by
  refine ⟨_, rfl, ?_⟩
  unfold pairs document Request.valuesMember presentMember
  dsimp only
  cases hvalues : values.isEmpty <;> cases e.operationName <;> rfl

/-! ### Both methods -/

/-- What a configured client sends for a query by a method, whichever one is configured. -/
def Config.request (c : Config) (method : Method) (query : String) (values : Dictionary Json) :
    Except Failure HttpRequest := do
  let e ← HttpEndpoint.ofConfig { c with method := method }
  e.request query values

theorem Config.request_eq (c : Config) (method : Method) (query : String)
    (values : Dictionary Json) : c.request method query values =
      Header.checked c.headers.entries >>= fun headers =>
        HttpEndpoint.request ⟨c.endpoint, method, headers, c.operationName⟩ query values := by
  unfold Config.request HttpEndpoint.ofConfig
  cases Header.checked c.headers.entries <;> rfl

/-- Where one method has no request, the other has none for the same reason. -/
theorem Config.request_eq_error_iff (c : Config) (query : String) (values : Dictionary Json)
    (failure : Failure) :
    c.request .get query values = .error failure ↔
      c.request .post query values = .error failure := by
  rw [Config.request_eq, Config.request_eq]
  cases Header.checked c.headers.entries with
  | error e => rfl
  | ok headers =>
    change HttpEndpoint.request _ query values = _ ↔ HttpEndpoint.request _ query values = _
    rw [HttpEndpoint.request, HttpEndpoint.request]
    cases Url.read? c.endpoint <;> simp

/-- Either method sends the same headers, those of a user that the address names among them; only
the document needs one more, which says what it is. -/
theorem Config.headers_of_request {c : Config} {query : String} {values : Dictionary Json}
    {asked posted : HttpRequest} (hasked : c.request .get query values = .ok asked)
    (hposted : c.request .post query values = .ok posted) :
    posted.headers = asked.headers.insert "content-type" "application/json" := by
  rw [Config.request_eq] at hasked hposted
  cases hheaders : Header.checked c.headers.entries with
  | error e =>
    rw [hheaders] at hasked
    cases hasked
  | ok headers =>
    rw [hheaders] at hasked hposted
    change HttpEndpoint.request _ query values = _ at hasked
    change HttpEndpoint.request _ query values = _ at hposted
    rw [HttpEndpoint.request] at hasked hposted
    cases haddress : Url.read? c.endpoint with
    | none =>
      rw [haddress] at hasked
      cases hasked
    | some address =>
      rw [haddress] at hasked hposted
      cases hasked
      cases hposted
      rfl

/-- **Both methods carry the same request.**  With bad headers or a bad address either fails as the
other does, and with good ones a request is sent by either method.  What the form in the address
has more than before are the members of the document that would be posted, one for one and in their
order; and either of them is the query, then the values of the variables unless there are none, then
the configured name if there is one. -/
theorem Config.asks_what_it_posts (c : Config) (query : String) (values : Dictionary Json) :
    (∀ failure, c.request .get query values = .error failure ↔
      c.request .post query values = .error failure) ∧
    ∀ headers address, Header.checked c.headers.entries = .ok headers →
      Url.read? c.endpoint = some address →
      ∃ asked posted members pairs,
        c.request .get query values = .ok asked ∧ c.request .post query values = .ok posted ∧
        posted.url = address ∧ posted.body = (Json.object members).compact ∧
        asked.url = address.addPairs pairs ∧ asked.url.parameters = address.parameters ++ pairs ∧
        pairs = members.map Request.asParameter ∧
        Request.Says Json.string id members query values c.operationName ∧
        Request.Says id Json.compact pairs query values c.operationName := by
  refine ⟨c.request_eq_error_iff query values, fun headers address hheaders haddress => ?_⟩
  let e : HttpEndpoint := ⟨c.endpoint, .get, headers, c.operationName⟩
  obtain ⟨members, hdocument, hpairs⟩ := e.pairs_eq_map query values
  obtain ⟨members', hmembers', hsays⟩ := (e.document query values).says_toJson
  obtain rfl : members = members' := Json.object.inj (hdocument.symm.trans hmembers')
  refine ⟨⟨address.addPairs (e.pairs query values), .get, e.sentHeaders, ""⟩,
    ⟨address, .post, e.sentHeaders.insert "content-type" "application/json",
      (Json.object members).compact⟩,
    members, e.pairs query values, ?_, ?_, rfl, rfl, rfl, Url.parameters_addPairs _ _, hpairs,
    hsays, e.says_pairs query values⟩
  · rw [Config.request_eq, hheaders]
    change HttpEndpoint.request e query values = _
    rw [HttpEndpoint.request, haddress]
  · rw [Config.request_eq, hheaders]
    change HttpEndpoint.request _ query values = _
    rw [HttpEndpoint.request, haddress, ← hdocument]
    rfl

/-! ### Signs of the form in what is sent -/

/-- A client whose address has a form already, and whose name has a sign of the form in it. -/
def searchConfig : Config :=
  ⟨"https://api.example/search?key=a%26b", none, .get, .ofEntries [("X-Api-Key", "k 1")],
    some "Find & keep"⟩

/-- A query with signs of the form, quotes and a character beyond ASCII. -/
def searchQuery : String := "\x7b find(by: \"50% + é\") \x7d"

/-- A variable whose value has all of these as well, one level further down. -/
def searchValues : Dictionary Json :=
  .ofEntries [("v", .object [("q", .string "x=\"1\"&y")])]

/-- The form that was there is kept, and what is behind it is read as it was meant. -/
theorem asks_what_it_posts_search :
    Header.checked searchConfig.headers.entries = .ok (.ofEntries [("x-api-key", "k 1")]) ∧
    Url.read? searchConfig.endpoint =
      some ⟨true, "api.example", 443, [['s', 'e', 'a', 'r', 'c', 'h']],
        some ['k', 'e', 'y', '=', 'a', '%', '2', '6', 'b']⟩ ∧
    ∃ asked posted members,
      searchConfig.request .get searchQuery searchValues = .ok asked ∧
      searchConfig.request .post searchQuery searchValues = .ok posted ∧
      posted.body = (Json.object members).compact ∧
      asked.url.parameters = ("key", "a&b") :: members.map Request.asParameter ∧
      members.map Request.asParameter = [("query", searchQuery),
        ("variables", "\x7b\"v\":\x7b\"q\":\"x=\\\"1\\\"&y\"\x7d\x7d"),
        ("operationName", "Find & keep")] := by
  have hheaders : Header.checked searchConfig.headers.entries =
      .ok (.ofEntries [("x-api-key", "k 1")]) := by
    decide +kernel
  have haddress : Url.read? searchConfig.endpoint =
      some ⟨true, "api.example", 443, [['s', 'e', 'a', 'r', 'c', 'h']],
        some ['k', 'e', 'y', '=', 'a', '%', '2', '6', 'b']⟩ := by
    decide +kernel
  have hall : (searchConfig.request .get searchQuery searchValues).map
      (fun r => r.url.parameters) = .ok [("key", "a&b"), ("query", searchQuery),
        ("variables", "\x7b\"v\":\x7b\"q\":\"x=\\\"1\\\"&y\"\x7d\x7d"),
        ("operationName", "Find & keep")] := by
    decide +kernel
  obtain ⟨asked, posted, members, pairs, hasked, hposted, -, hbody, -, hparameters, rfl, -, -⟩ :=
    (Config.asks_what_it_posts searchConfig searchQuery searchValues).2 _ _ hheaders haddress
  change asked.url.parameters = [("key", "a&b")] ++ _ at hparameters
  rw [hasked] at hall
  have hmembers := hparameters.symm.trans (Except.ok.inj hall)
  exact ⟨hheaders, haddress, asked, posted, members, hasked, hposted, hbody, hparameters,
    (List.cons.inj hmembers).2⟩

end FieldQuery
