/-
**Schema tables as documents.**

Tables are written as a document with one object for each table.  A shape is written as a marker,
`enum` or `scalar.` with the name of the scalar, or as the object of its fields.  A marker is a
string and the fields are an object, so the two cannot be taken for each other.

Main definitions:

* `TypeShape.display`, `TypeShape.ofMarker?` — the short text of a shape, and the shape of a marker;
* `TypeShape.ofContent` — the shape that a document describes;
* `Schema.toJson`, `Schema.read` — tables as a document, and the tables that a text holds;
* `Schema.readYaml?` — the tables that an indented text holds;
* `Schema.load` — the tables of a file, whose name tells the form.
-/

import FieldQuery.Schema.Basic
import FieldQuery.Json.Reading
import FieldQuery.Json.Printer
import FieldQuery.Text.Extension
import FieldQuery.Yaml.Reading

set_option autoImplicit false

namespace FieldQuery

/-! ### Shapes -/

/-- The marker of an enumeration. -/
def enumerationMarker : List Char := ['e', 'n', 'u', 'm']

/-- What the marker of a scalar begins with. -/
def scalarMarker : List Char := ['s', 'c', 'a', 'l', 'a', 'r', '.']

/-- Members whose values are all of one form. -/
def formedMembers? {φ : Type} (field? : Json → Option φ) : Entries Json → Option (Entries φ)
  | [] => some []
  | (k, v) :: r => do
    let x ← field? v
    return (k, x) :: (← formedMembers? field? r)

namespace TypeShape

variable {φ : Type}

/-- The short text of a shape. -/
def display : TypeShape φ → String
  | enumeration => String.ofList enumerationMarker
  | scalar name => String.ofList (scalarMarker ++ name.toList)
  | fields fs => "\x7b" ++ toString fs.size ++ " fields\x7d"

/-- The shape that a marker stands for. -/
def ofMarker? (cs : List Char) : Option (TypeShape φ) :=
  if cs = enumerationMarker then some enumeration
  else
    match scalarMarker.isPrefixOf? cs with
    | some (c :: r) => some (scalar (String.ofList (c :: r)))
    | _ => none

/-- The misfit of a text that is no marker. -/
def badMarker (text : String) : Json.Misfit :=
  .custom ("invalid type marker `" ++ text ++ "`: expecting `enum` or `scalar.<name>`")

/-- The shape that a document describes, with a reader for the fields. -/
def ofContent (field? : Json → Option φ) : Json → Except Json.Misfit (TypeShape φ)
  | .string s =>
    match ofMarker? s.toList with
    | some shape => .ok shape
    | none => .error (badMarker s)
  | .object members =>
    match formedMembers? field? members with
    | some fs => .ok (fields (Dictionary.ofEntries fs))
    | none => .error (.noVariant "Raw")
  | _ => .error (.noVariant "Raw")

/-- The document of a shape, with a writer for the fields. -/
def toJson (field : φ → Json) : TypeShape φ → Json
  | fields fs => .object (fs.entries.map fun (k, x) => (k, field x))
  | shape => .string shape.display

end TypeShape

/-- The field that a document describes where arguments are described. -/
def InputField.ofContent? : Json → Option InputField
  | .string name => some (.type name)
  | .object members =>
    (formedMembers? Json.asString? members).map fun es => .arguments (Dictionary.ofEntries es)
  | _ => none

/-- The document of types by name. -/
def typesJson (types : Dictionary String) : Json :=
  .object (types.entries.map fun (k, t) => (k, .string t))

/-- The document of a field where arguments are described. -/
def InputField.toJson : InputField → Json
  | .type name => .string name
  | .arguments types => typesJson types

/-! ### Tables -/

namespace Schema

/-- The names of the three tables in a document. -/
def tableNames : List String := ["ops", "props", "returns"]

/-- The document of the tables. -/
def toJson (s : Schema) : Json :=
  .object [
    ("ops", typesJson s.operations),
    ("props", .object (s.inputs.entries.map fun (k, x) => (k, x.toJson InputField.toJson))),
    ("returns", .object (s.results.entries.map fun (k, x) => (k, x.toJson .string)))]

/-- A shape in a document, of which all has to be readable. -/
def shape {φ : Type} (field? : Json → Option φ) (o : Json.Outline) :
    Except Json.ReadError (TypeShape φ) := do
  let v ← Json.orFlawed o.content
  (TypeShape.ofContent field? v).mapError .unfit

/-- How tables are read; a table that is not there is empty. -/
def record : Json.Record Schema Schema where
  title := "struct SchemaTables"
  fields := tableNames
  mayEnd _ := true
  start := empty
  field name o s :=
    if name = "ops" then do return { s with operations := ← o.dictionary Json.Outline.text }
    else if name = "props" then do
      return { s with inputs := ← o.dictionary (shape InputField.ofContent?) }
    else do return { s with results := ← o.dictionary (shape Json.asString?) }
  finish := .ok

/-- The tables that a text holds. -/
def read (text : String) : Except Json.ReadError Schema :=
  Json.readWith (record.read .text) text

/-! ### Indented texts -/

/-- A shape in a tree, whose markers and fields have to be strings. -/
def shapeOfNode? {φ : Type} (field? : Json → Option φ) (n : Yaml.Node) : Option (TypeShape φ) := do
  let v ← n.typedContent?
  (TypeShape.ofContent field? v).toOption

/-- A table that may be left out. -/
def tableOrEmpty {α : Type} (read : Yaml.Node → Option (Dictionary α)) :
    Option Yaml.Node → Option (Dictionary α)
  | some n => read n
  | none => some Dictionary.empty

/-- The tables of a tree. -/
def ofNode? (n : Yaml.Node) : Option Schema := do
  let fs ← n.fields? tableNames false
  let operations ← tableOrEmpty Yaml.Node.texts? (fs.get? "ops")
  let inputs ←
    tableOrEmpty (Yaml.Node.dictionary? (shapeOfNode? InputField.ofContent?)) (fs.get? "props")
  let results ←
    tableOrEmpty (Yaml.Node.dictionary? (shapeOfNode? Json.asString?)) (fs.get? "returns")
  return ⟨operations, inputs, results⟩

/-- The tables that an indented text holds. -/
def readYaml? (text : String) : Option Schema := (Yaml.tree? text).bind ofNode?

/-! ### Files -/

/-- Why the tables of a file could not be loaded. -/
inductive LoadError where
  | notFound
  | unsupportedFormat (path : String)
  | json (error : Json.ReadError)
  | yaml
deriving DecidableEq, Repr

/-- The tables of the file at a path; `contents` is its text, if there is such a file. -/
def load (path : String) (contents : Option String) : Except LoadError Schema :=
  match contents with
  | none => .error .notFound
  | some text =>
    match (Text.extension? path.toList).map String.ofList with
    | some "json" => (read text).mapError .json
    | some "yaml" => (readYaml? text).elim (.error .yaml) .ok
    | some "yml" => (readYaml? text).elim (.error .yaml) .ok
    | _ => .error (.unsupportedFormat path)

end Schema

end FieldQuery
