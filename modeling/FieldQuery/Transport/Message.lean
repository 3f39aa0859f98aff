/-
**Messages of a subscription.**

The two sides of a subscription exchange messages over one connection.  A message is an object
whose member `type` says of which kind it is; it may also be written as an array of its type and
its fields.

Main definitions:

* `ClientMessage`, `ServerMessage` — the messages of either side, with `toJson` and `read`;
* `ServerMessage.describe` — a message in a diagnostic;
* `Json.tagged` — the type of a message and what else it holds.
-/

import FieldQuery.Transport.Request
import FieldQuery.Json.Describe

set_option autoImplicit false

namespace FieldQuery

/-! ### Types -/

namespace Json

/-- The name of the member that holds the type. -/
def typeMember : String := "type"

/-- The type of a message, one of several. -/
def Outline.variant (choices : List String) : Outline → Except ReadError String
  | .string s => if choices.contains s then .ok s else .error (.unfit (.unknownVariant s choices))
  | o => o.unexpected "variant identifier"

/-- The type among the members of an object, and the contents of the others. -/
def taggedMembers (choices : List String) :
    Option String → List (Except Flaw String × Outline) →
      Except ReadError (Option String × Entries Json)
  | type, [] => .ok (type, [])
  | type, (name, o) :: rest => do
    let name ← orFlawed name
    if name = typeMember then
      if type.isSome then .error (.unfit (.repeated typeMember))
      else do
        let t ← o.variant choices
        taggedMembers choices (some t) rest
    else do
      let v ← orFlawed o.content
      let (type, es) ← taggedMembers choices type rest
      return (type, (name, v) :: es)

/-- The type of a message and what else it holds. -/
def tagged (title : String) (choices : List String) : Outline → Except ReadError (String × Json)
  | .object members stop => do
    let (type, es) ← taggedMembers choices none members
    orFlawed (Outline.endsWith stop)
    return (← Record.need typeMember type, .object es)
  | .array [] stop => do
    orFlawed (Outline.endsWith stop)
    Record.need typeMember none
  | .array (o :: rest) stop => do
    let type ← o.variant choices
    let vs ← orFlawed (Outline.contentItems rest)
    orFlawed (Outline.endsWith stop)
    return (type, .array vs)
  | o => o.unexpected title

end Json

/-! ### Fields -/

/-- The fields that a message may have. -/
structure Envelope (π : Type) where
  id : Option String
  payload : Option π

/-- How the fields of a message are read. -/
def envelope {π α : Type} (title : String) (fields : List String) (mayEnd : String → Bool)
    (id : Json.Outline → Except Json.ReadError (Option String))
    (payload : Json.Outline → Except Json.ReadError (Option π))
    (finish : Envelope π → Except Json.ReadError α) : Json.Record (Envelope π) α where
  title := title
  fields := fields
  mayEnd := mayEnd
  start := ⟨none, none⟩
  field name o e :=
    if name = "id" then do return { e with id := ← id o }
    else do return { e with payload := ← payload o }
  finish := finish

namespace Envelope

/-- A text that must be there. -/
def someText (o : Json.Outline) : Except Json.ReadError (Option String) := o.text.map some

/-- A document that may be null. -/
def anyDocument (o : Json.Outline) : Except Json.ReadError (Option Json) :=
  o.optional Json.Outline.value

/-- A document that null stands in for as well. -/
def someDocument (o : Json.Outline) : Except Json.ReadError (Option Json) := o.value.map some

/-- A message with nothing but a payload that may be absent. -/
def payloadOnly {α : Type} (title : String) (mayEnd : Bool) (make : Option Json → α) :
    Json.Record (Envelope Json) α :=
  envelope title ["payload"] (fun _ => mayEnd) someText anyDocument fun e => .ok (make e.payload)

/-- A message with nothing but an identifier. -/
def idOnly {α : Type} (title : String) (make : String → α) : Json.Record (Envelope Json) α :=
  envelope title ["id"] (fun _ => false) someText anyDocument fun e => do
    return make (← Json.Record.need "id" e.id)

end Envelope

/-! ### From the client -/

/-- What a client sends. -/
inductive ClientMessage where
  | connectionInit (payload : Option Json)
  | subscribe (id : String) (payload : Request)
  | complete (id : String)
  | ping (payload : Option Json)
  | pong (payload : Option Json)
deriving DecidableEq

namespace ClientMessage

/-- The types of messages. -/
def types : List String := ["connection_init", "subscribe", "complete", "ping", "pong"]

/-- A message with its type. -/
def typedJson (type : String) (fields : Entries Json) : Json :=
  .object ((Json.typeMember, .string type) :: fields)

/-- The document of a message; an absent payload is left out. -/
def toJson : ClientMessage → Json
  | connectionInit p => typedJson "connection_init" (presentMember "payload" id p)
  | subscribe id p => typedJson "subscribe" [("id", .string id), ("payload", p.toJson)]
  | complete id => typedJson "complete" [("id", .string id)]
  | ping p => typedJson "ping" (presentMember "payload" id p)
  | pong p => typedJson "pong" (presentMember "payload" id p)

/-- A request after an identifier. -/
def subscribeRecord : Json.Record (Envelope Request) ClientMessage :=
  envelope "struct variant ClientMessage::Subscribe" ["id", "payload"] (fun _ => false)
    Envelope.someText (fun o => (Request.record.read .held o).map some) fun e => do
      return subscribe (← Json.Record.need "id" e.id) (← Json.Record.need "payload" e.payload)

/-- A message from its type and what else it holds. -/
def ofTagged (type : String) (o : Json.Outline) : Except Json.ReadError ClientMessage :=
  if type = "connection_init" then
    (Envelope.payloadOnly "struct variant ClientMessage::ConnectionInit" false connectionInit).read
      .held o
  else if type = "subscribe" then subscribeRecord.read .held o
  else if type = "complete" then
    (Envelope.idOnly "struct variant ClientMessage::Complete" complete).read .held o
  else if type = "ping" then
    (Envelope.payloadOnly "struct variant ClientMessage::Ping" false ping).read .held o
  else (Envelope.payloadOnly "struct variant ClientMessage::Pong" false pong).read .held o

/-- The message that a text holds. -/
def read (text : String) : Except Json.ReadError ClientMessage :=
  Json.readWith (fun o => do
    let (type, v) ← Json.tagged "internally tagged enum ClientMessage" types o
    ofTagged type (.ofJson v)) text

end ClientMessage

/-! ### From the server -/

/-- What a server sends. -/
inductive ServerMessage where
  | connectionAck (payload : Option Json)
  | next (id : String) (payload : Reply)
  | error (id : Option String) (payload : Json)
  | complete (id : String)
  | ping (payload : Option Json)
  | pong (payload : Option Json)
deriving DecidableEq

namespace ServerMessage

/-- The types of messages. -/
def types : List String := ["connection_ack", "next", "error", "complete", "ping", "pong"]

/-- A payload, null where it is absent. -/
def payloadMember (p : Option Json) : Entries Json := [("payload", p.getD .null)]

/-- The document of a message; an absent payload is written as null. -/
def toJson : ServerMessage → Json
  | connectionAck p => ClientMessage.typedJson "connection_ack" (payloadMember p)
  | next id p => ClientMessage.typedJson "next" [("id", .string id), ("payload", p.toJson)]
  | error id p =>
    ClientMessage.typedJson "error" [("id", (id.map Json.string).getD .null), ("payload", p)]
  | complete id => ClientMessage.typedJson "complete" [("id", .string id)]
  | ping p => ClientMessage.typedJson "ping" (payloadMember p)
  | pong p => ClientMessage.typedJson "pong" (payloadMember p)

/-- A reply after an identifier. -/
def nextRecord : Json.Record (Envelope Reply) ServerMessage :=
  envelope "struct variant ServerMessage::Next" ["id", "payload"] (fun _ => false)
    Envelope.someText (fun o => ((Reply.record .held).read .held o).map some) fun e => do
      return next (← Json.Record.need "id" e.id) (← Json.Record.need "payload" e.payload)

/-- A document after an identifier that may be absent. -/
def errorRecord : Json.Record (Envelope Json) ServerMessage :=
  envelope "struct variant ServerMessage::Error" ["id", "payload"] (fun name => name = "id")
    (fun o => o.optional Json.Outline.text) Envelope.someDocument fun e => do
      return error e.id (← Json.Record.need "payload" e.payload)

/-- A message from its type and what else it holds. -/
def ofTagged (type : String) (o : Json.Outline) : Except Json.ReadError ServerMessage :=
  if type = "connection_ack" then
    (Envelope.payloadOnly "struct variant ServerMessage::ConnectionAck" true connectionAck).read
      .held o
  else if type = "next" then nextRecord.read .held o
  else if type = "error" then errorRecord.read .held o
  else if type = "complete" then
    (Envelope.idOnly "struct variant ServerMessage::Complete" complete).read .held o
  else if type = "ping" then
    (Envelope.payloadOnly "struct variant ServerMessage::Ping" true ping).read .held o
  else (Envelope.payloadOnly "struct variant ServerMessage::Pong" true pong).read .held o

/-- The message that a text holds. -/
def read (text : String) : Except Json.ReadError ServerMessage :=
  Json.readWith (fun o => do
    let (type, v) ← Json.tagged "internally tagged enum ServerMessage" types o
    ofTagged type (.ofJson v)) text

/-! ### In diagnostics -/

/-- A part that may be absent. -/
def describeOption {α : Type} (describe : α → String) : Option α → String
  | some x => "Some(" ++ describe x ++ ")"
  | none => "None"

/-- Named parts between braces after a name. -/
def describeFields (name : String) (fields : List (String × String)) : String :=
  name ++ " \x7b " ++ ", ".intercalate (fields.map fun (k, t) => k ++ ": " ++ t) ++ " \x7d"

/-- Parts between brackets. -/
def describeList {α : Type} (describe : α → String) (xs : List α) : String :=
  "[" ++ ", ".intercalate (xs.map describe) ++ "]"

/-- An error of a reply with the kinds of its parts. -/
def describeReplyError (e : ReplyError) : String :=
  describeFields "GraphQLErrorEntry" [("message", Text.quoted e.message),
    ("locations", describeOption Json.describe e.locations),
    ("path", describeOption (describeList Json.describe) e.path),
    ("extensions", describeOption Json.describe e.extensions)]

/-- A reply with the kinds of its parts. -/
def describeReply (r : Reply) : String :=
  describeFields "GraphQLResponse" [("data", describeOption Json.describe r.data),
    ("errors", describeOption (describeList describeReplyError) r.errors),
    ("extensions", describeOption Json.describe r.extensions)]

/-- A payload that may be absent. -/
def describePayload (p : Option Json) : List (String × String) :=
  [("payload", describeOption Json.describe p)]

/-- A message in a diagnostic. -/
def describe : ServerMessage → String
  | connectionAck p => describeFields "ConnectionAck" (describePayload p)
  | next id p =>
    describeFields "Next" [("id", Text.quoted id), ("payload", describeReply p)]
  | error id p =>
    describeFields "Error" [("id", describeOption Text.quoted id), ("payload", p.describe)]
  | complete id => describeFields "Complete" [("id", Text.quoted id)]
  | ping p => describeFields "Ping" (describePayload p)
  | pong p => describeFields "Pong" (describePayload p)

end ServerMessage

end FieldQuery
