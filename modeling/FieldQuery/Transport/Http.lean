/-
**Calls over HTTP.**

A query is posted as a document, or asked for with everything in the address.  Either way the same
three things are sent: the text of the query, the values of its variables if there are any, and the
name of the operation if one is configured.

A reply counts if its status says success and its body is a reply; all else is a failure that keeps
the status and the body.

Main definitions:

* `HttpEndpoint`, `HttpEndpoint.sentHeaders` — where calls go and with what;
* `HttpRequest`, `HttpEndpoint.request` — what is sent for a query;
* `HttpResponse`, `HttpResponse.reply` — what comes back, and the reply in it.

Main results:

* `HttpResponse.reply_of_failure` — without success there is no reply.
-/

import FieldQuery.Text.Encoding
import FieldQuery.Transport.Config
import FieldQuery.Transport.Header
import FieldQuery.Transport.Url

set_option autoImplicit false

namespace FieldQuery

/-! ### Requests -/

/-- What is sent, and to which address. -/
structure HttpRequest where
  url : Url
  method : Method
  headers : Dictionary String
  body : String
deriving DecidableEq

/-- Where calls go, by which method and with which headers, and the name sent with each query. -/
structure HttpEndpoint where
  address : String
  method : Method
  headers : Dictionary String
  operationName : Option String
deriving DecidableEq

namespace HttpEndpoint

/-- The endpoint that a configuration describes; its headers have to be good ones. -/
def ofConfig (c : Config) : Except Failure HttpEndpoint := do
  let headers ← Header.checked c.headers.entries
  return ⟨c.endpoint, c.method, headers, c.operationName⟩

/-- A query with the values of its variables, as it is posted. -/
def document (e : HttpEndpoint) (query : String) (values : Dictionary Json) : Request :=
  ⟨query, values, e.operationName⟩

/-- A query with the values of its variables, as it is written into an address. -/
def pairs (e : HttpEndpoint) (query : String) (values : Dictionary Json) :
    List (String × String) :=
  ("query", query) ::
    (if values.isEmpty then [] else [("variables", (Json.object values.entries).compact)]) ++
    e.operationName.toList.map fun name => ("operationName", name)

/-- The headers that are sent: a user that the address names is told in one of them, whichever user
the configuration tells of. -/
def sentHeaders (e : HttpEndpoint) : Dictionary String :=
  match Url.credentials? e.address with
  | some c => e.headers.insert "authorization" c.header
  | none => e.headers

/-- What is sent for a query; nothing, where the address is none. -/
def request (e : HttpEndpoint) (query : String) (values : Dictionary Json) :
    Except Failure HttpRequest :=
  match Url.read? e.address with
  | none => .error .unsent
  | some url =>
    .ok (match e.method with
      | .post => ⟨url, .post, e.sentHeaders.insert "content-type" "application/json",
          (e.document query values).toJson.compact⟩
      | .get => ⟨url.addPairs (e.pairs query values), .get, e.sentHeaders, ""⟩)

end HttpEndpoint

/-! ### Responses -/

/-- What comes back: a status and a body. -/
structure HttpResponse where
  status : Nat
  body : List UInt8
deriving DecidableEq

namespace HttpResponse

/-- The status says success. -/
def isSuccess (r : HttpResponse) : Bool := 200 ≤ r.status && r.status < 300

/-- With these statuses nothing follows the headers, whatever is sent. -/
def isBodiless (r : HttpResponse) : Bool := r.status = 204 || r.status = 304

/-- The body as text. -/
def text (r : HttpResponse) : String :=
  if r.isBodiless then "" else String.ofList (Text.decode r.body)

/-- The document in the body, or else its text. -/
def document (r : HttpResponse) : Json := (Json.read r.text).toOption.getD (.string r.text)

/-- The failure that keeps status and body. -/
def failure (r : HttpResponse) : Failure := .status r.status r.document

/-- The reply in the body. -/
def reply (r : HttpResponse) : Except Failure Reply :=
  if r.isSuccess then (Reply.read r.text).mapError fun _ => r.failure else .error r.failure

/-- Without success there is no reply. -/
theorem reply_of_failure {r : HttpResponse} (h : r.isSuccess = false) :
    r.reply = .error r.failure := by
  simp [reply, h]

theorem reply_of_read {r : HttpResponse} (h : r.isSuccess = true) {reply : Reply}
    (hr : Reply.read r.text = .ok reply) : r.reply = .ok reply := by
  rw [HttpResponse.reply, if_pos h, hr]
  rfl

end HttpResponse

/-! ### Calls -/

/-- Whoever can be asked for a response. -/
abbrev Web (m : Type → Type) := HttpRequest → ExceptT Failure m HttpResponse

/-- The reply to a query over HTTP. -/
def HttpEndpoint.send {m : Type → Type} [Monad m] (web : Web m) (e : HttpEndpoint) (query : String)
    (values : Dictionary Json) : ExceptT Failure m Reply := do
  let request ← ExceptT.mk (pure (e.request query values))
  let response ← web request
  ExceptT.mk (pure response.reply)

end FieldQuery
