/-
**What a command line asks for.**

Every line names a schema and one of five commands.  Four of them are about a selection, and two of
those need the configuration of a client.

Main definitions:

* `SelectionOptions` — which selection, for which operation, with which coders;
* `Job` — the five commands with their options;
* `Invocation` — a schema and a job, with `Invocation.read`;
* `Invocation.Refusal` — why a line asks for nothing.
-/

import FieldQuery.CommandLine.Options

set_option autoImplicit false

namespace FieldQuery

/-- Which selection, for which operation, under which name, and with which coders. -/
structure SelectionOptions where
  selection : String
  operation : String
  operationName : Option String
  scalars : List String
deriving DecidableEq, Repr

/-- What a line asks for. -/
inductive Job where
  | compile (options : SelectionOptions)
  | resolve (path : String)
  | scalars (options : SelectionOptions)
  | query (config : String) (values : Option String) (options : SelectionOptions)
  | subscribe (config : String) (options : SelectionOptions)
deriving DecidableEq, Repr

/-- A schema and what to do with it. -/
structure Invocation where
  schema : String
  job : Job
deriving DecidableEq, Repr

namespace Invocation

/-- Why a line asks for nothing: it asks for help, for the version, or makes no sense. -/
inductive Refusal where
  | help
  | version (program : String)
  | misuse
deriving DecidableEq, Repr

/-- The name of the program. -/
def programName : String := "qselctl"

/-- The version of the program. -/
def versionText : String := "0.1.0"

/-- Why a line is not followed, by the name under which its part of the program goes. -/
def refusal (program : String) : Halt → Refusal
  | .help => .help
  | .version => .version program
  | .misuse => .misuse

/-! ### What each command takes -/

/-- The names of the commands. -/
def jobNames : List String := ["compile", "resolve", "scalars", "query", "subscribe"]

/-- The command that asks for help about another. -/
def helpCommand : String := "help"

/-- What the program takes before a command. -/
def outerUsage : Usage := ⟨["schema"], [], 0, helpCommand :: jobNames⟩

/-- The options about a selection. -/
def selectionNames : List String := ["selection", "operation", "operation-name"]

/-- What a command takes. -/
def usage (name : String) : Usage :=
  if name = "resolve" then ⟨[], [], 1, []⟩
  else
    let more :=
      if name = "query" then ["config", "variables"]
      else if name = "subscribe" then ["config"]
      else []
    ⟨more ++ selectionNames, ["scalar"], 0, []⟩

/-! ### Reading -/

/-- The options about a selection. -/
def selectionOptions (a : Arguments) : Except Halt SelectionOptions := do
  return ⟨← a.need "selection", (a.value? "operation").getD "query", a.value? "operation-name",
    a.all "scalar"⟩

/-- A job from its name and its arguments. -/
def jobOf (name : String) (a : Arguments) : Except Halt Job :=
  if name = "resolve" then
    match a.values with
    | path :: _ => .ok (.resolve path)
    | [] => .error .misuse
  else do
    if name = "compile" then return .compile (← selectionOptions a)
    else if name = "scalars" then return .scalars (← selectionOptions a)
    else if name = "query" then
      return .query (← a.need "config") (a.value? "variables") (← selectionOptions a)
    else return .subscribe (← a.need "config") (← selectionOptions a)

/-- A job from its name and what follows it. -/
def readJob (name : String) (args : List String) : Except Halt Job := do
  let (a, _) ← Arguments.read (usage name) args
  if a.isSound (usage name) then jobOf name a else .error .misuse

/-- Help is given about the commands there are. -/
def readHelp (args : List String) : Refusal :=
  match args with
  | [] => .help
  | [name] => if outerUsage.commands.contains name then .help else .misuse
  | _ => .misuse

/-- A line taken apart; what is wrong with a command is noticed before what is wrong with the
arguments in front of it. -/
def read (args : List String) : Except Refusal Invocation := do
  let (outer, command) ← (Arguments.read outerUsage args).mapError (refusal programName)
  match command with
  | none => .error .misuse
  | some (name, rest) =>
    if name = helpCommand then .error (readHelp rest)
    else
      let job ← (readJob name rest).mapError (refusal (programName ++ "-" ++ name))
      if outer.isSound outerUsage then
        let schema ← (outer.need "schema").mapError (refusal programName)
        return ⟨schema, job⟩
      else .error .misuse

end Invocation

end FieldQuery
