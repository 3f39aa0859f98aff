/-
**Configuration of a client.**

Where requests are sent, by which method, with which headers, and under which name of the
operation.  Subscriptions go to an address of their own or to the same address with the scheme
exchanged.

Main definitions:

* `Method`, `Config` — a configuration;
* `Config.ofEndpoint` — the configuration that gives nothing but the address;
* `Config.readYaml?` — the configuration that a text holds;
* `Config.subscriptionUrl?` — where subscriptions go.
-/

import FieldQuery.Yaml.Reading

set_option autoImplicit false

namespace FieldQuery

/-- How requests are sent. -/
inductive Method where
  | get
  | post
deriving DecidableEq, Repr

/-- The name of a method. -/
def Method.name : Method → String
  | get => "GET"
  | post => "POST"

/-- The configuration of a client. -/
structure Config where
  endpoint : String
  subscriptionEndpoint : Option String
  method : Method
  headers : Dictionary String
  operationName : Option String
deriving DecidableEq

namespace Config

/-- The configuration that gives nothing but the address. -/
def ofEndpoint (endpoint : String) : Config := ⟨endpoint, none, .post, Dictionary.empty, none⟩

/-- The document of a configuration. -/
def toJson (c : Config) : Json :=
  let optional (t : Option String) : Json := (t.map Json.string).getD .null
  .object [
    ("endpoint", .string c.endpoint),
    ("websocket_endpoint", optional c.subscriptionEndpoint),
    ("method", .string c.method.name),
    ("headers", .object (c.headers.entries.map fun (k, v) => (k, .string v))),
    ("operation_name", optional c.operationName)]

/-! ### Reading -/

/-- The method of a name. -/
def methodNamed? (name : String) : Option Method :=
  [Method.get, .post].find? fun m => m.name == name

/-- A null that is written without quotes. -/
def isPlainNull (n : Yaml.Node) : Bool :=
  match n.scalar? with
  | some s => s.plain && (s.text = "~" || s.text = "null") &&
      (match s.tag with
        | none => true
        | some tag => tag.handle = ['!', '!'] && tag.suffix = ['n', 'u', 'l', 'l'])
  | none => false

/-- The method that a tag of the document's own names. -/
def taggedMethod? (s : Yaml.Scalar) : Option Method :=
  match s.tag with
  | some tag => if tag.handle = ['!'] then methodNamed? (String.ofList tag.suffix) else none
  | none => none

/-- A method: its name, or the only key of a mapping to null.  A method that is named by a tag has
no place for the text of the scalar. -/
def method? (n : Yaml.Node) : Option Method :=
  match n.entries? with
  | some [(k, v)] => if isPlainNull v then k.text?.bind methodNamed? else none
  | some _ => none
  | none => do
    let s ← n.scalar?
    if (taggedMethod? s).isSome then none else methodNamed? s.text

/-- The names of the fields. -/
def fieldNames : List String :=
  ["endpoint", "websocket_endpoint", "method", "headers", "operation_name"]

/-- A field that may be left out. -/
def fieldOr {α : Type} (default : α) (read : Yaml.Node → Option α) : Option Yaml.Node → Option α
  | some n => read n
  | none => some default

/-- The configuration of a tree; a field that is not known is refused. -/
def ofNode? (n : Yaml.Node) : Option Config := do
  let fs ← n.fields? fieldNames true
  let endpoint ← (← fs.get? "endpoint").text?
  let subscriptionEndpoint ← fieldOr none Yaml.Node.optionalText? (fs.get? "websocket_endpoint")
  let method ← fieldOr .post method? (fs.get? "method")
  let headers ← fieldOr Dictionary.empty Yaml.Node.texts? (fs.get? "headers")
  let operationName ← fieldOr none Yaml.Node.optionalText? (fs.get? "operation_name")
  return ⟨endpoint, subscriptionEndpoint, method, headers, operationName⟩

/-- The configuration that a text holds. -/
def readYaml? (text : String) : Option Config := (Yaml.tree? text).bind ofNode?

/-! ### Subscriptions -/

/-- A text whose scheme is exchanged; none where it has another one. -/
def exchangeScheme? (old new : List Char) (text : List Char) : Option (List Char) :=
  (old.isPrefixOf? text).map fun rest => new ++ rest

/-- Where subscriptions go. -/
def subscriptionUrl? (c : Config) : Option String :=
  match c.subscriptionEndpoint with
  | some url => some url
  | none =>
    let cs := c.endpoint.toList
    ((exchangeScheme? "https://".toList "wss://".toList cs).or
      (exchangeScheme? "http://".toList "ws://".toList cs)).map String.ofList

end Config

end FieldQuery
