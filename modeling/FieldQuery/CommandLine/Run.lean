/-
**What the program does.**

An invocation is carried out in a world that has files and a network.  What the program writes, for
the reader and for the log, is collected in order, and a failure ends it.

A subscription that has begun does not fail any more: whatever happens to it is written to the log.

Main definitions:

* `Output` — what the program writes;
* `World` — files and network;
* `Job.run` — a job carried out;
* `Program.run` — a whole command line, with its `Outcome`.
-/

import FieldQuery.Client.Remote
import FieldQuery.Client.Subscribe
import FieldQuery.CommandLine.Invocation
import FieldQuery.Subscription.Session

set_option autoImplicit false

namespace FieldQuery

/-! ### Output -/

/-- How much an entry of the log matters. -/
inductive Level where
  | info
  | error
deriving DecidableEq, Repr

/-- The name of a level. -/
def Level.name : Level → String
  | info => "INFO"
  | error => "ERROR"

/-- What the program writes: a line for the reader, or an entry of the log. -/
inductive Output where
  | line (text : String)
  | log (level : Level) (text : String)
deriving DecidableEq, Repr

/-! ### The world -/

/-- Files and network.  A connection is given by what arrives on it; `send` is told, step by step,
what is sent. -/
structure World (m : Type → Type) where
  read : String → m (Option String)
  web : Web m
  connect : Handshake → m (Except ConnectFault (List Arrival))
  send : List ClientMessage → m Unit

/-- Work in the world that writes output and can fail. -/
abbrev Work (m : Type → Type) := ExceptT Failure (StateT (List Output) m)

namespace Work

variable {m : Type → Type} [Monad m]

/-- Output written. -/
def write (os : List Output) : Work m Unit := modify (· ++ os)

/-- What the world does. -/
def outside {α : Type} (x : m α) : Work m α := liftM x

/-- A result that needs no world. -/
def lift {α : Type} (r : Except Failure α) : Work m α := ExceptT.mk (pure r)

/-- The text of a file, which has to be there. -/
def fileText (w : World m) (path : String) : Work m String := do
  match ← outside (w.read path) with
  | some text => return text
  | none => throw .missingFile

end Work

/-! ### Files -/

namespace Program

variable {m : Type → Type} [Monad m]

/-- The document that the text of a file holds; the name of the file says how it is written. -/
def documentOf (path text : String) : Except Failure Json :=
  let extension := (Text.extension? path.toList).map String.ofList
  if extension = some "yaml" || extension = some "yml" then
    (Yaml.value? text).elim (.error .unreadableYaml) .ok
  else (Json.read text).mapError .unreadable

/-- The document in a file. -/
def document (w : World m) (path : String) : Work m Json := do
  Work.lift (documentOf path (← Work.fileText w path))

/-- The tables in a file. -/
def schema (w : World m) (path : String) : Work m Schema := do
  Work.lift ((Schema.load path (← Work.outside (w.read path))).mapError Failure.ofLoad)

/-- The selection in a file. -/
def selection (w : World m) (path : String) : Work m SelectionSet := do
  Work.lift ((SelectionSet.ofJson (← document w path)).mapError .selection)

/-- The values of variables in a file. -/
def valuesIn (w : World m) (path : String) : Work m (Dictionary Json) := do
  match ← document w path with
  | .object members => return Dictionary.ofEntries members
  | _ => throw .variablesNotObject

/-- The configuration in a file. -/
def config (w : World m) (path : String) : Work m Config := do
  Work.lift ((Config.readYaml? (← Work.fileText w path)).elim (.error .unreadableYaml) .ok)

/-- The coders that bindings name, the later ones over the earlier. -/
def coders (bindings : List String) : Except Failure Coders :=
  bindings.foldlM (fun cs b => do
    let (scalar, codec) ← (StockCodec.ofBinding b).mapError Failure.binding
    return Coders.withCoder cs scalar codec.coder) Dictionary.empty

/-- The client that a file and options describe. -/
def remote (w : World m) (s : Schema) (path : String) (o : SelectionOptions) : Work m Remote := do
  let r ← Work.lift (Remote.ofConfig s (← config w path))
  let r := r.withCoders (← Work.lift (coders o.scalars))
  return o.operationName.elim r r.withOperationName

/-! ### Selections and paths -/

/-- The query for a selection, and an entry for each variable. -/
def compile (w : World m) (s : Schema) (o : SelectionOptions) : Work m Unit := do
  let set ← selection w o.selection
  let cs ← Work.lift (coders o.scalars)
  let q ← Work.lift ((set.compile s cs o.operationName o.operation).mapError .query)
  Work.write (.line q.text :: q.declared.entries.map fun (name, type) =>
    .log .info ("variable $" ++ name ++ ": " ++ type))

/-- What stands at a path. -/
def resolve (s : Schema) (path : String) : Work m Unit :=
  let p := SchemaPath.ofText path
  Work.write [.line (p.display ++ " " ++ (s.classify p).display)]

/-- The positions of scalars in the response to a selection. -/
def scalars (w : World m) (s : Schema) (o : SelectionOptions) : Work m Unit := do
  let set ← selection w o.selection
  let paths := (set.scalarPaths s (s.rootType o.operation)).sorted
  Work.write (paths.map fun (p, scalar) => .line (ResponsePath.display p ++ " " ++ scalar))

/-! ### Calls -/

/-- An operation that is answered by one reply. -/
def singleOperation (name : String) : Except Failure Operation := do
  let o ← Failure.operation name
  if o = .subscription then .error (.streamed o) else return o

/-- What is logged about a failure of a call. -/
def callLog (o : Operation) : Failure → List Output
  | .rejected reply => [.log .error (o.name ++ " rejected: " ++ reply.display)]
  | _ => []

/-- The result of a call written out. -/
def query (w : World m) (s : Schema) (configPath : String) (valuesPath : Option String)
    (o : SelectionOptions) : Work m Unit := do
  let operation ← Work.lift (singleOperation o.operation)
  let r ← remote w s configPath o
  let values ←
    match valuesPath with
    | some path => valuesIn w path
    | none => pure Dictionary.empty
  let set ← selection w o.selection
  match ← Work.outside (r.execute w.web operation set values).run with
  | .ok data => Work.write [.line data.pretty]
  | .error f =>
    Work.write (callLog operation f)
    throw f

/-! ### Subscriptions -/

/-- What the program writes about a notice. -/
def noticeOutput : Notice → Output
  | .opened => .log .info "subscription started"
  | .message v => .line v.compact
  | .error f => .log .error f.report
  | .closed => .log .info "subscription ended"

/-- What is logged about a session that has failed. -/
def sessionOutput (address : String) (f : Failure) : Output :=
  .log .error ("subscription to " ++ address ++ " failed: " ++ f.report)

/-- The commands by which the program listens to a handle. -/
def listeners (inner : Nat) : List (Command Output) :=
  Notice.Kind.all.map fun kind => .listen inner kind fun n => [.write (noticeOutput n)]

/-- The carrier of the program: it keeps the query and the handle for the session to come. -/
def carrier : Carrier Output (String × Nat) := fun query outer => do
  Subscribing.perform [.closeWith outer []]
  return (query, outer)

/-- What a session does on a connection to an endpoint, or instead of one. -/
def sessionStory (w : World m) (e : SocketEndpoint) (query : String) :
    m (List (List Session.Effect)) :=
  match e.handshake with
  | .error f => pure [Session.failing f]
  | .ok h => do
    match ← w.connect h with
    | .ok arrivals => return Session.story (e.document query) arrivals
    | .error fault => return [Session.failing (.unconnected fault)]

/-- One step of a session: what it sends, and what its listeners are told. -/
def sessionStep (w : World m) (e : SocketEndpoint) (outer : Nat) (subs : Subscriptions Output)
    (effects : List Session.Effect) : m (Subscriptions Output) := do
  w.send (Session.sent effects)
  return subs.perform
    (Session.commands outer (fun f => [.write (sessionOutput e.address f)]) effects)

/-- A subscription from beginning to end. -/
def subscribe (w : World m) (s : Schema) (configPath : String) (o : SelectionOptions) :
    Work m Unit := do
  let r ← remote w s configPath o
  let set ← selection w o.selection
  let (begun, subs) := r.client.subscribe (some carrier) set Subscriptions.none
  let (inner, query, outer) ← Work.lift begun
  let story ← Work.outside (sessionStory w r.socket query)
  let subs ← Work.outside
    (story.foldlM (sessionStep w r.socket outer) (subs.perform (listeners inner)))
  Work.write subs.written

end Program

/-! ### Invocations -/

/-- A job carried out with the tables of a schema. -/
def Job.run {m : Type → Type} [Monad m] (w : World m) (s : Schema) : Job → Work m Unit
  | .compile o => Program.compile w s o
  | .resolve path => Program.resolve s path
  | .scalars o => Program.scalars w s o
  | .query config values o => Program.query w s config values o
  | .subscribe config o => Program.subscribe w s config o

/-- What came of a command line: what was written, and the failure that ended it, if one did. -/
inductive Outcome where
  | refused (refusal : Invocation.Refusal)
  | done (outputs : List Output)
  | failed (outputs : List Output) (failure : Failure)

namespace Outcome

/-- The code that a program ends with: nothing but help and the version are no failures. -/
def code : Outcome → Nat
  | refused .misuse => 1
  | refused _ => 0
  | done _ => 0
  | failed _ _ => 1

/-- What was written. -/
def outputs : Outcome → List Output
  | refused (.version program) => [.line (program ++ " " ++ Invocation.versionText)]
  | refused _ => []
  | done os => os
  | failed os _ => os

/-- The report of the failure that ended the program. -/
def report? : Outcome → Option String
  | failed _ f => some ("Error: " ++ f.report)
  | _ => none

end Outcome

/-- A command line carried out. -/
def Program.run {m : Type → Type} [Monad m] (w : World m) (args : List String) : m Outcome := do
  match Invocation.read args with
  | .error refusal => return .refused refusal
  | .ok i =>
    let work : Work m Unit := do i.job.run w (← Program.schema w i.schema)
    match ← work.run.run [] with
    | (.ok _, os) => return .done os
    | (.error f, os) => return .failed os f

end FieldQuery
