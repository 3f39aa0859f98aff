/-
**Calls.**

A client compiles a selection, has the query sent, and decodes the data of the reply.  How a query
is sent is left to whoever sends it: a network, a queue of replies, or anything else that can be
asked for a reply to a query with the values of its variables.

A reply with errors is a failure that keeps the whole reply, whatever data came with it.

Main definitions:

* `Client` — a schema, coders, and a name for operations;
* `Client.compile` — the query that asks for a selection;
* `Client.conclude` — the result that a reply gives;
* `Client.execute` — a whole call.

Main results:

* `Client.conclude_of_errors` — errors reject a reply, data or not.
-/

import FieldQuery.Client.Failure
import FieldQuery.Query.Compile

set_option autoImplicit false

namespace FieldQuery

/-- What a client knows: the schema, the coders of scalars, and the name that operations get. -/
structure Client where
  schema : Schema
  coders : Coders
  operationName : Option String

namespace Client

/-- A client that knows nothing but a schema. -/
def ofSchema (schema : Schema) : Client := ⟨schema, Dictionary.empty, none⟩

/-- The client with other coders. -/
def withCoders (coders : Coders) (c : Client) : Client := { c with coders := coders }

/-- The client with another name for operations. -/
def withOperationName (name : String) (c : Client) : Client :=
  { c with operationName := some name }

/-- The query that asks an operation for a selection. -/
def compile (c : Client) (operation : Operation) (s : SelectionSet) :
    Except Failure CompiledQuery :=
  Failure.lift .query (s.compile c.schema c.coders c.operationName operation.name)

/-- The data of a reply to a selection, decoded. -/
def decode (c : Client) (operation : Operation) (s : SelectionSet) (data : Json) :
    Except DecodeError Json :=
  s.decodeResponse c.schema c.coders operation.name data

/-- The result that a reply gives: its data decoded, where it has no errors. -/
def conclude (c : Client) (operation : Operation) (s : SelectionSet) (reply : Reply) :
    Except Failure Json :=
  if reply.errors.isSome then .error (.rejected reply)
  else Failure.lift .decoding (c.decode operation s reply.dataOrNull)

/-- Whoever can be asked for a reply to a query with the values of its variables. -/
abbrev Sender (m : Type → Type) := String → Dictionary Json → ExceptT Failure m Reply

/-- A call: the query is compiled and sent, and the reply decoded. -/
def execute {m : Type → Type} [Monad m] (send : Sender m) (c : Client) (operation : Operation)
    (s : SelectionSet) (values : Dictionary Json) : ExceptT Failure m Json := do
  let q ← ExceptT.mk (pure (c.compile operation s))
  let reply ← send q.text values
  ExceptT.mk (pure (c.conclude operation s reply))

/-! ### What calls do -/

/-- Errors reject a reply, whatever data came with them. -/
theorem conclude_of_errors (c : Client) (operation : Operation) (s : SelectionSet) {reply : Reply}
    {errors : List ReplyError} (h : reply.errors = some errors) :
    c.conclude operation s reply = .error (.rejected reply) := by
  simp [conclude, h]

theorem conclude_of_no_errors (c : Client) (operation : Operation) (s : SelectionSet)
    {reply : Reply} (h : reply.errors = none) :
    c.conclude operation s reply =
      Failure.lift .decoding (c.decode operation s reply.dataOrNull) := by
  simp [conclude, h]

end Client

end FieldQuery
