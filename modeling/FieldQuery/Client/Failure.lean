/-
**What a client can fail at.**

A call passes through many hands: documents are read, a query is compiled, a request is sent, a
reply is decoded.  Each of them has errors of its own, and a client reports all of them as failures
of one type.  A failure has a message, and some have a cause with a message of its own; a report
shows both.

Main definitions:

* `UriFault`, `ConnectFault` — why a connection was not made;
* `Failure` — what a call can fail at;
* `Failure.message`, `Failure.cause?`, `Failure.report` — a failure as text.
-/

import FieldQuery.Schema.Document
import FieldQuery.Selection.Reader
import FieldQuery.Scalar.Stock
import FieldQuery.Query.Argument
import FieldQuery.Query.Operation
import FieldQuery.Response.Decode
import FieldQuery.Transport.Message

set_option autoImplicit false

namespace FieldQuery

/-! ### Connections -/

/-- Why a text is no address of a connection. -/
inductive UriFault where
  | empty
  | tooLong
  | longScheme
  | badCharacter
  | badAuthority
  | badFormat
deriving DecidableEq, Repr

/-- The message of a fault. -/
def UriFault.message : UriFault → String
  | empty => "empty string"
  | tooLong => "uri too long"
  | longScheme => "scheme too long"
  | badCharacter => "invalid uri character"
  | badAuthority => "invalid authority"
  | badFormat => "invalid format"

/-- Why a connection was not made. -/
inductive ConnectFault where
  | badUri (fault : UriFault)
  | noHost
  | emptyHost
  | otherScheme
  | unwritable
  | unreachable
deriving DecidableEq, Repr

/-- What stands behind a fault, if anything does. -/
def ConnectFault.cause? : ConnectFault → Option String
  | badUri fault => some fault.message
  | noHost => some "No host name in the URL"
  | emptyHost => some "URL contains empty host name"
  | otherScheme => some "URL scheme not supported"
  | unwritable => none
  | unreachable => some "Connection refused (os error 111)"

/-- The area that a fault belongs to. -/
def ConnectFault.area : ConnectFault → String
  | badUri _ => "HTTP format error"
  | noHost | emptyHost | otherScheme => "URL error"
  | unwritable => "UTF-8 encoding error"
  | unreachable => "IO error"

/-- The message of a fault. -/
def ConnectFault.message (f : ConnectFault) : String :=
  match f.cause? with
  | some cause => f.area ++ ": " ++ cause
  | none => f.area

/-! ### Failures -/

/-- What a call can fail at. -/
inductive Failure where
  | missingFile
  | unsupportedSchema (path : String)
  | unreadable (error : Json.ReadError)
  | unreadableYaml
  | variablesNotObject
  | selection (error : SelectionError)
  | binding (error : BindingError)
  | unknownOperation (name : String)
  | streamed (operation : Operation)
  | query (error : QueryError)
  | decoding (error : DecodeError)
  | headerName
  | headerValue
  | unsent
  | status (code : Nat) (body : Json)
  | rejected (reply : Reply)
  | noSubscriptionUrl (endpoint : String)
  | noSubscriptions
  | noRuntime
  | unconnected (fault : ConnectFault)
  | unacknowledged (message : ServerMessage)
  | notified (errors : Json)
  | custom (text : String)
deriving DecidableEq

/-- What stands for the reason why a text is no document. -/
def Json.ReadError.placeholder : String := "<json error>"

/-- The message of an error of a coder. -/
def CoderError.message : CoderError → String
  | invalidValue text => "value `" ++ text ++ "` is not valid for this scalar"
  | unreadable _ => Json.ReadError.placeholder
  | custom text => text

/-- The message of an error of a query. -/
def QueryError.message : QueryError → String
  | .variable e => e.message
  | .coder e => e.message

namespace Failure

/-- The message of a failure. -/
def message : Failure → String
  | missingFile => "No such file or directory (os error 2)"
  | unsupportedSchema path => "unsupported schema artifact: `" ++ path ++ "`"
  | unreadable _ => Json.ReadError.placeholder
  | unreadableYaml => "malformed document"
  | variablesNotObject => "variables must be a JSON object"
  | selection e => e.message
  | binding e => e.message
  | unknownOperation name => "unknown operation type `" ++ name ++ "`"
  | streamed operation => "`" ++ operation.name ++ "` operations are sent with `subscribe`"
  | query e => e.message
  | decoding e => e.message
  | headerName => "invalid HTTP header name"
  | headerValue => "failed to parse header value"
  | unsent => "error sending request"
  | status code body => "request failed with status " ++ toString code ++ ": " ++ body.compact
  | rejected reply => "operation failed: " ++ reply.display
  | noSubscriptionUrl endpoint => "cannot derive a websocket url from endpoint `" ++ endpoint ++ "`"
  | noSubscriptions => "no subscription transport configured"
  | noRuntime => "no tokio runtime available to drive the subscription"
  | unconnected fault => fault.message
  | unacknowledged m => "expecting connection_ack, got " ++ m.describe
  | notified errors => "subscription error: " ++ errors.compact
  | custom text => text

/-- The message of what caused a failure. -/
def cause? : Failure → Option String
  | decoding e => some e.cause.message
  | unconnected fault => fault.cause?
  | _ => none

/-- A failure with its cause. -/
def report (f : Failure) : String :=
  match f.cause? with
  | some cause => f.message ++ "\n\nCaused by:\n    " ++ cause
  | none => f.message

/-! ### Errors as failures -/

/-- Tables that could not be loaded, as a failure. -/
def ofLoad : Schema.LoadError → Failure
  | .notFound => missingFile
  | .unsupportedFormat path => unsupportedSchema path
  | .json e => unreadable e
  | .yaml => unreadableYaml

/-- A result whose errors are failures. -/
def lift {ε α : Type} (f : ε → Failure) (r : Except ε α) : Except Failure α := r.mapError f

/-- The operation of a keyword. -/
def operation (name : String) : Except Failure Operation :=
  (Operation.ofName? name).elim (.error (unknownOperation name)) .ok

end Failure

end FieldQuery
