/-
**What a request carries.**

A query can be posted as a document, written into an address, or sent over an open connection.  The
three look different and are built apart from each other, but each is a list of named things: the
text of the query, the values of its variables unless there are none, and the name of the operation
if the endpoint has one.  What is carried is said here once for all of them, by the names under
which it is found.

Main definitions:

* `Request.Says` — named things are a query, its values and a name;
* `HttpRequest.Carries` — a request says so, in its body or in its address.

Main results:

* `Request.says_toJson` — so does the document of a request;
* `HttpEndpoint.carries_of_request` — **what is sent for a query carries it**, by either method.
-/

import FieldQuery.Transport.Http

set_option autoImplicit false

namespace FieldQuery

/-- Named things are a query, the values of its variables unless there are none, and a name if there
is one, in this order and nothing else.  Texts and documents are written as they are where the
things stand. -/
structure Request.Says {α : Type} (text : String → α) (document : Json → α) (es : Entries α)
    (query : String) (values : Dictionary Json) (name : Option String) : Prop where
  query : es.get? "query" = some (text query)
  values : es.get? "variables" =
    if values.isEmpty then none else some (document (.object values.entries))
  name : es.get? "operationName" = name.map text
  keys : (Entries.keys es).Sublist ["query", "variables", "operationName"]

/-- The request says so in the document that is its body, or in the pairs that are added to the
address. -/
inductive HttpRequest.Carries (address : Url) (query : String) (values : Dictionary Json)
    (name : Option String) : HttpRequest → Prop
  | posted {headers : Dictionary String} {members : Entries Json} :
      Request.Says Json.string id members query values name →
        Carries address query values name ⟨address, .post, headers, (Json.object members).compact⟩
  | asked {headers : Dictionary String} {pairs : Entries String} :
      Request.Says id Json.compact pairs query values name →
        Carries address query values name ⟨address.addPairs pairs, .get, headers, ""⟩

namespace Request

/-- A list with the query first, then the values unless there are none, then the name. -/
theorem says_of_parts {α : Type} (text : String → α) (document : Json → α) (query : String)
    (values : Dictionary Json) (name : Option String) :
    Says text document
      (("query", text query) ::
        (if values.isEmpty then [] else [("variables", document (.object values.entries))]) ++
        name.toList.map fun n => ("operationName", text n))
      query values name := by
  cases hvalues : values.isEmpty <;> cases name <;>
    constructor <;> simp [Entries.get?, Entries.keys, hvalues]

/-- The document of a request says what the request is. -/
theorem says_toJson (r : Request) :
    ∃ members, r.toJson = .object members ∧
      Says Json.string id members r.query r.values r.operationName := by
  refine ⟨_, rfl, ?_⟩
  have hparts := says_of_parts Json.string id r.query r.values r.operationName
  unfold valuesMember presentMember
  cases hname : r.operationName with
  | none => rwa [hname] at hparts
  | some n => rwa [hname] at hparts

end Request

namespace HttpEndpoint

theorem says_pairs (e : HttpEndpoint) (query : String) (values : Dictionary Json) :
    Request.Says id Json.compact (e.pairs query values) query values e.operationName :=
  Request.says_of_parts id Json.compact query values e.operationName

/-- **What is sent for a query carries it**, with the name of the endpoint. -/
theorem carries_of_request {e : HttpEndpoint} {query : String} {values : Dictionary Json}
    {request : HttpRequest} (h : e.request query values = .ok request) :
    ∃ address, Url.read? e.address = some address ∧ request.method = e.method ∧
      request.Carries address query values e.operationName := by
  unfold HttpEndpoint.request at h
  split at h
  · cases h
  · rename_i address haddress
    refine ⟨address, haddress, ?_⟩
    cases hmethod : e.method with
    | post =>
      rw [hmethod] at h
      obtain ⟨members, hmembers, hsays⟩ := (e.document query values).says_toJson
      cases h
      exact ⟨rfl, by rw [hmembers]; exact .posted hsays⟩
    | get =>
      rw [hmethod] at h
      cases h
      exact ⟨rfl, .asked (e.says_pairs query values)⟩

end HttpEndpoint

end FieldQuery
