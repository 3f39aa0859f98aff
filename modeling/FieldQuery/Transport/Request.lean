/-
**Requests and replies.**

A query is sent as a document with its text, the values of its variables and the name of the
operation, of which the last two may be missing.  The reply carries data, a list of errors, or
both; if there is a list of errors, even an empty one, the operation has failed.  What is absent is
not written, and null means absent.

Main definitions:

* `Request`, `Request.toJson`, `Request.record` — a request, as a document and from one;
* `ReplyError`, `Reply` — the same for replies, with `Reply.read`;
* `Reply.display` — a reply in one line.
-/

import FieldQuery.Json.Reading
import FieldQuery.Json.Printer

set_option autoImplicit false

namespace FieldQuery

/-- A member that is written only where it is present. -/
def presentMember {α : Type} (name : String) (toJson : α → Json) : Option α → Entries Json
  | some x => [(name, toJson x)]
  | none => []

/-! ### Requests -/

/-- A query with the values of its variables and the name of its operation. -/
structure Request where
  query : String
  values : Dictionary Json
  operationName : Option String
deriving DecidableEq

namespace Request

/-- The variables as a member, if there are any. -/
def valuesMember (values : Dictionary Json) : Entries Json :=
  if values.isEmpty then [] else [("variables", .object values.entries)]

/-- The document of a request. -/
def toJson (r : Request) : Json :=
  .object (("query", .string r.query) :: valuesMember r.values ++
    presentMember "operationName" .string r.operationName)

/-- A request of which the text may still be missing. -/
structure Draft where
  query : Option String
  values : Dictionary Json
  operationName : Option String

/-- How a request is read. -/
def record : Json.Record Draft Request where
  title := "struct GraphQLRequest"
  fields := ["query", "variables", "operationName"]
  mayEnd name := name ≠ "query"
  start := ⟨none, Dictionary.empty, none⟩
  field name o d :=
    if name = "query" then do return { d with query := some (← o.text) }
    else if name = "variables" then do
      return { d with values := Dictionary.ofEntries (← o.mapping) }
    else do return { d with operationName := ← o.optional Json.Outline.text }
  finish d := do return ⟨← Json.Record.need "query" d.query, d.values, d.operationName⟩

/-- The request that a text holds. -/
def read (text : String) : Except Json.ReadError Request := Json.readWith (record.read .text) text

end Request

/-! ### Errors of a reply -/

/-- An error that the other side reports. -/
structure ReplyError where
  message : String
  locations : Option Json
  path : Option (List Json)
  extensions : Option Json
deriving DecidableEq

namespace ReplyError

/-- The document of an error. -/
def toJson (e : ReplyError) : Json :=
  .object (("message", .string e.message) :: presentMember "locations" id e.locations ++
    presentMember "path" .array e.path ++ presentMember "extensions" id e.extensions)

/-- An error of which the message may still be missing. -/
structure Draft where
  message : Option String
  locations : Option Json
  path : Option (List Json)
  extensions : Option Json

/-- How an error is read. -/
def record : Json.Record Draft ReplyError where
  title := "struct GraphQLErrorEntry"
  fields := ["message", "locations", "path", "extensions"]
  mayEnd name := name ≠ "message"
  start := ⟨none, none, none, none⟩
  field name o d :=
    if name = "message" then do return { d with message := some (← o.text) }
    else if name = "locations" then do
      return { d with locations := ← o.optional Json.Outline.value }
    else if name = "path" then do
      return { d with path := ← o.optional (Json.Outline.sequence Json.Outline.value) }
    else do return { d with extensions := ← o.optional Json.Outline.value }
  finish d := do
    return ⟨← Json.Record.need "message" d.message, d.locations, d.path, d.extensions⟩

end ReplyError

/-! ### Replies -/

/-- What the other side answers to a request. -/
structure Reply where
  data : Option Json
  errors : Option (List ReplyError)
  extensions : Option Json
deriving DecidableEq

namespace Reply

/-- The document of a list of errors. -/
def errorsJson (errors : List ReplyError) : Json := .array (errors.map ReplyError.toJson)

/-- The document of a reply. -/
def toJson (r : Reply) : Json :=
  .object (presentMember "data" id r.data ++ presentMember "errors" errorsJson r.errors ++
    presentMember "extensions" id r.extensions)

/-- How a reply is read; nothing in it has to be present. -/
def record (origin : Json.Origin) : Json.Record Reply Reply where
  title := "struct GraphQLResponse"
  fields := ["data", "errors", "extensions"]
  mayEnd _ := true
  start := ⟨none, none, none⟩
  field name o r :=
    if name = "data" then do return { r with data := ← o.optional Json.Outline.value }
    else if name = "errors" then do
      let errors ← o.optional (Json.Outline.sequence (ReplyError.record.read origin))
      return { r with errors := errors }
    else do return { r with extensions := ← o.optional Json.Outline.value }
  finish := .ok

/-- The reply that a text holds. -/
def read (text : String) : Except Json.ReadError Reply :=
  Json.readWith ((record .text).read .text) text

/-- A reply in one line: the messages of its errors. -/
def display (r : Reply) : String :=
  match r.errors with
  | none => "ok"
  | some [] => "empty error list"
  | some errors => "; ".intercalate (errors.map ReplyError.message)

/-- The data of a reply, null where it is absent. -/
def dataOrNull (r : Reply) : Json := r.data.getD .null

end Reply

end FieldQuery
