/-
**Arguments of a command line.**

Arguments are options, commands, or values that stand for themselves.  An option is written with
two hyphens or more; its value follows after an equals sign or as the next argument, and an option
that may be repeated takes all arguments that follow it up to the next hyphen.  A lone hyphen is a
value, and after two hyphens everything is.

Two flags are always understood, and a line that asks for help or for the version asks for nothing
else.  A line that makes no sense is refused, whatever is wrong with it.

Main definitions:

* `Usage` — the options and values that a command takes, and the commands after it;
* `Halt` — why a line is not followed;
* `Arguments.read` — the arguments of a command, and the command after it with what follows.
-/

import FieldQuery.Dictionary
import FieldQuery.Text.Cut

set_option autoImplicit false

namespace FieldQuery

/-- What a command takes: options with one value, options with any number of them, values that
stand for themselves, and further commands. -/
structure Usage where
  single : List String
  repeated : List String
  values : Nat
  commands : List String

namespace Usage

/-- The options with a value. -/
def options (u : Usage) : List String := u.single ++ u.repeated

end Usage

/-- Why a line is not followed. -/
inductive Halt where
  | help
  | version
  | misuse
deriving DecidableEq, Repr

/-- Arguments read so far: what was given to each option, one list for each time it was named; the
values that stand for themselves; the option that may take the next argument; and whether
everything is a value now. -/
structure Arguments where
  given : List (String × List String)
  values : List String
  pending : Option String
  trailing : Bool
deriving DecidableEq, Repr

namespace Arguments

/-- No arguments. -/
def none : Arguments := ⟨[], [], .none, false⟩

/-! ### Single arguments -/

/-- An argument that is no value: it starts with a hyphen and has more to it. -/
def isNew (arg : String) : Bool :=
  match arg.toList with
  | '-' :: _ :: _ => true
  | _ => false

/-- A text without leading occurrences of a character. -/
def dropLeading (c : Char) (cs : List Char) : List Char := cs.dropWhile (· = c)

/-- The name of an option that is written with hyphens, and its value after an equals sign. -/
def nameAndValue (arg : String) : String × Option String :=
  let cs := dropLeading '-' arg.toList
  match Text.cutAt '=' cs with
  | some (name, value) => (String.ofList name, some (String.ofList (dropLeading '=' value)))
  | .none => (String.ofList cs, .none)

/-- The flags that are always understood. -/
def flag? (name : String) : Option Halt :=
  if name = "help" then some .help else if name = "version" then some .version else .none

/-- The first of several short flags. -/
def shortFlag (arg : String) : Halt :=
  match dropLeading '-' arg.toList with
  | 'h' :: _ => .help
  | 'V' :: _ => .version
  | _ => .misuse

/-! ### Several arguments -/

/-- One value more for the option that was named last. -/
def addValue (value : String) (a : Arguments) : Arguments :=
  match a.given.getLast? with
  | some (name, vs) => { a with given := a.given.dropLast ++ [(name, vs ++ [value])] }
  | .none => a

/-- An option named. -/
def addOption (name : String) (value : Option String) (a : Arguments) : Arguments :=
  let a := { a with given := a.given ++ [(name, [])] }
  match value with
  | some v => { a.addValue v with pending := .none }
  | .none => { a with pending := some name }

/-- A long option or flag. -/
def addLong (u : Usage) (arg : String) (a : Arguments) : Except Halt Arguments :=
  let (name, value) := nameAndValue arg
  if u.options.contains name then .ok (a.addOption name value)
  else .error ((flag? name).getD .misuse)

/-- A value that stands for itself. -/
def addOwn (u : Usage) (arg : String) (a : Arguments) : Except Halt Arguments :=
  if a.values.length < u.values then
    .ok { a with values := a.values ++ [arg], pending := .none }
  else .error .misuse

/-- A value of the option that waits for one, or one that stands for itself. -/
def addPlain (u : Usage) (arg : String) (a : Arguments) : Except Halt Arguments :=
  match a.pending with
  | some name =>
    .ok { a.addValue arg with pending := if u.repeated.contains name then some name else .none }
  | .none => a.addOwn u arg

/-- One argument more that is no command. -/
def add (u : Usage) (arg : String) (a : Arguments) : Except Halt Arguments :=
  if a.trailing then a.addOwn u arg
  else if arg = "--" then .ok { a with trailing := true }
  else if "--".isPrefixOf arg then a.addLong u arg
  else if isNew arg then .error (shortFlag arg)
  else a.addPlain u arg

/-- An argument is a command where one can stand and no option waits for a value. -/
def isCommand (u : Usage) (arg : String) (a : Arguments) : Bool :=
  !a.trailing && a.pending.isNone && u.commands.contains arg

/-- Arguments up to a command, and the command with what follows it. -/
def readFrom (u : Usage) : List String → Arguments →
    Except Halt (Arguments × Option (String × List String))
  | [], a => .ok (a, .none)
  | arg :: rest, a =>
    if a.isCommand u arg then .ok (a, some (arg, rest))
    else do readFrom u rest (← a.add u arg)

/-- The arguments of a command, and the command after it with what follows. -/
def read (u : Usage) (args : List String) :
    Except Halt (Arguments × Option (String × List String)) :=
  readFrom u args none

/-! ### Values -/

/-- Every option has a value each time it is named, and is named once unless it may be repeated. -/
def isSound (u : Usage) (a : Arguments) : Bool :=
  a.given.all (fun (_, vs) => !vs.isEmpty) &&
    u.single.all fun name => (a.given.filter fun g => g.1 = name).length ≤ 1

/-- The values of an option. -/
def all (name : String) (a : Arguments) : List String :=
  (a.given.filter fun g => g.1 = name).flatMap Prod.snd

/-- The value of an option. -/
def value? (name : String) (a : Arguments) : Option String := (a.all name).head?

/-- The value of an option that has to be given. -/
def need (name : String) (a : Arguments) : Except Halt String :=
  (a.value? name).elim (.error .misuse) .ok

end Arguments

end FieldQuery
