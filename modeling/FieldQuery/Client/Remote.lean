/-
**Clients from configurations.**

A configuration says where calls go and where subscriptions go, and it may name the operation.  The
configured name is both written into queries and sent beside them; a name given later is only
written into queries.

Main definitions:

* `Remote` — a client with its two endpoints;
* `Remote.ofConfig` — the client that a configuration describes;
* `Remote.execute` — a call over HTTP.

Main results:

* `Remote.operationName_ofConfig` — the configured name is written and sent.
-/

import FieldQuery.Client.Basic
import FieldQuery.Transport.Http
import FieldQuery.Transport.Socket

set_option autoImplicit false

namespace FieldQuery

/-- A client, where its calls go, and where its subscriptions go. -/
structure Remote where
  client : Client
  http : HttpEndpoint
  socket : SocketEndpoint

namespace Remote

/-- The client that a configuration describes. -/
def ofConfig (schema : Schema) (c : Config) : Except Failure Remote := do
  let http ← HttpEndpoint.ofConfig c
  let socket ← SocketEndpoint.ofConfig c
  return ⟨{ Client.ofSchema schema with operationName := c.operationName }, http, socket⟩

/-- The client with other coders. -/
def withCoders (coders : Coders) (r : Remote) : Remote :=
  { r with client := r.client.withCoders coders }

/-- The client with another name for operations. -/
def withOperationName (name : String) (r : Remote) : Remote :=
  { r with client := r.client.withOperationName name }

/-- A call over HTTP. -/
def execute {m : Type → Type} [Monad m] (web : Web m) (r : Remote) (operation : Operation)
    (s : SelectionSet) (values : Dictionary Json) : ExceptT Failure m Json :=
  r.client.execute (r.http.send web) operation s values

/-- The configured name is written into queries and sent beside them. -/
theorem operationName_ofConfig {schema : Schema} {c : Config} {r : Remote}
    (h : ofConfig schema c = .ok r) :
    r.client.operationName = c.operationName ∧ r.http.operationName = c.operationName ∧
      r.socket.operationName = c.operationName := by
  unfold ofConfig HttpEndpoint.ofConfig SocketEndpoint.ofConfig at h
  cases hh : Header.checked c.headers.entries with
  | error e => simp [hh, bind, Except.bind] at h
  | ok headers =>
    cases hu : c.subscriptionUrl? with
    | none => simp [hh, hu, bind, Except.bind, pure, Except.pure] at h
    | some url =>
      simp only [hh, hu, bind, Except.bind, pure, Except.pure, Except.ok.injEq] at h
      subst h
      exact ⟨rfl, rfl, rfl⟩

end Remote

end FieldQuery
