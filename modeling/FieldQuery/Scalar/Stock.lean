/-
**Stock codecs.**

Two coders are wanted so often that they can be had by name.  `numeric-string` sends numbers as
strings, for numbers too long for the other side, and `json-string` sends any document as a string
that holds its text.

Main definitions:

* `StockCodec` — the two codecs, with `StockCodec.ofName?`;
* `StockCodec.coder` — their functions;
* `StockCodec.ofBinding` — the scalar and the codec that `scalar=codec` binds together.

Main results:

* `StockCodec.ofName?_name` — a codec is found by its name.
-/

import FieldQuery.Scalar.Basic
import FieldQuery.Json.Printer
import FieldQuery.Text.Cut

set_option autoImplicit false

namespace FieldQuery

/-- A codec that can be had by name. -/
inductive StockCodec where
  | numericString
  | jsonString
deriving DecidableEq, Repr

/-- What is wrong with the name of a codec or with a binding. -/
inductive BindingError where
  | unknownCodec (name : String)
  | badBinding (text : String)
deriving DecidableEq, Repr

/-- The message of an error. -/
def BindingError.message : BindingError → String
  | unknownCodec name => "unknown stock scalar codec `" ++ name ++ "`"
  | badBinding text => "expecting `<scalar>=<codec>`, got `" ++ text ++ "`"

namespace StockCodec

/-! ### Numbers as strings -/

mutual

/-- A number between quotes; strings, nulls and arrays of them are written as they are. -/
def encodeNumeric : Json → Except CoderError String
  | .number n => .ok (String.ofList ('"' :: n.toText ++ ['"']))
  | .string s => .ok (Json.quote s)
  | .array items => do return "[" ++ ", ".intercalate (← encodeNumerics items) ++ "]"
  | .null => .ok "null"
  | .bool b => .error (.invalidValue (Json.bool b).compact)
  | .object members => .error (.invalidValue (Json.object members).compact)

/-- Every element as `encodeNumeric` writes it. -/
def encodeNumerics : List Json → Except CoderError (List String)
  | [] => .ok []
  | v :: r => do
    let t ← encodeNumeric v
    return t :: (← encodeNumerics r)

end

/-- The number that a string spells; other values are left as they are. -/
def decodeNumeric : Json → Except CoderError Json
  | .string s =>
    match Json.numberOfText? s.toList with
    | some n => .ok (.number n)
    | none => .error (.invalidValue s)
  | v => .ok v

/-! ### Documents as strings -/

/-- A string that holds the text of a document. -/
def encodeDocument (v : Json) : Except CoderError String := .ok (Json.quote v.compact)

/-- The document whose text a string holds; other values are left as they are. -/
def decodeDocument : Json → Except CoderError Json
  | .string s => (Json.read s).mapError .unreadable
  | v => .ok v

/-! ### By name -/

/-- The functions of a codec. -/
def coder : StockCodec → Coder
  | numericString => ⟨some encodeNumeric, some decodeNumeric⟩
  | jsonString => ⟨some encodeDocument, some decodeDocument⟩

/-- The name of a codec. -/
def name : StockCodec → String
  | numericString => "numeric-string"
  | jsonString => "json-string"

/-- The codec of a name. -/
def ofName? (text : String) : Option StockCodec :=
  [numericString, jsonString].find? fun c => c.name == text

/-- A codec is found by its name. -/
theorem ofName?_name (c : StockCodec) : ofName? c.name = some c := by
  cases c <;> simp [ofName?, name]

/-- The codec of a name, or the error of an unknown one. -/
def named (text : String) : Except BindingError StockCodec :=
  match ofName? text with
  | some c => .ok c
  | none => .error (.unknownCodec text)

/-- The scalar and the codec that `scalar=codec` binds together. -/
def ofBinding (text : String) : Except BindingError (String × StockCodec) :=
  match Text.cutAt '=' text.toList with
  | none => .error (.badBinding text)
  | some (scalar, codec) => do
    let c ← named (String.ofList codec)
    return (String.ofList scalar, c)

end StockCodec

end FieldQuery
