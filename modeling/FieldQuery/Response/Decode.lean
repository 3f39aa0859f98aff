/-
**Decoding responses.**

A response is walked in step with the positions of its scalars, and each value at a position whose
scalar has a decoder is replaced by what the decoder makes of it.  Arrays are passed through.  One
decoder that fails makes the whole pass fail.

Main definitions:

* `DecodeError` — the scalar and the position that failed, and why;
* `ScalarPaths.decode` — a value with its scalars decoded;
* `SelectionSet.decodeResponse` — the data of a response to a selection, decoded.
-/

import FieldQuery.Response.ScalarPaths
import FieldQuery.Scalar.Basic

set_option autoImplicit false

namespace FieldQuery

/-- A scalar that could not be decoded. -/
structure DecodeError where
  scalar : String
  path : ResponsePath
  cause : CoderError
deriving DecidableEq, Repr

/-- The message of an error. -/
def DecodeError.message (e : DecodeError) : String :=
  "failed to decode scalar `" ++ e.scalar ++ "` at `" ++ e.path.display ++ "`"

namespace ScalarPaths

/-- The scalar of a position and its decoder, where it has one. -/
def decoderAt? (paths : ScalarPaths) (coders : Coders) (position : ResponsePath) :
    Option (String × (Json → Except CoderError Json)) := do
  let scalar ← paths.get? position
  let decoder ← coders.decoder? scalar
  return (scalar, decoder)

/-- What a decoder makes of the value at a position. -/
def decodeWith (position : ResponsePath)
    (found : String × (Json → Except CoderError Json)) (v : Json) : Except DecodeError Json :=
  (found.2 v).mapError fun cause => ⟨found.1, position, cause⟩

mutual

/-- A value at a position with its scalars decoded. -/
def decodeAt (paths : ScalarPaths) (coders : Coders) (position : ResponsePath) :
    Json → Except DecodeError Json
  | .array items => do return .array (← decodeItems paths coders position items)
  | .object members =>
    match paths.decoderAt? coders position with
    | some found => decodeWith position found (.object members)
    | none => do return .object (← decodeMembers paths coders position members)
  | v =>
    match paths.decoderAt? coders position with
    | some found => decodeWith position found v
    | none => .ok v

/-- The elements of an array at a position, each decoded there. -/
def decodeItems (paths : ScalarPaths) (coders : Coders) (position : ResponsePath) :
    List Json → Except DecodeError (List Json)
  | [] => .ok []
  | v :: r => do
    let x ← decodeAt paths coders position v
    return x :: (← decodeItems paths coders position r)

/-- The members of an object at a position, each decoded one name further. -/
def decodeMembers (paths : ScalarPaths) (coders : Coders) (position : ResponsePath) :
    List (String × Json) → Except DecodeError (List (String × Json))
  | [] => .ok []
  | (k, v) :: r => do
    let x ← decodeAt paths coders (position.child k) v
    return (k, x) :: (← decodeMembers paths coders position r)

end

/-- A value with its scalars decoded. -/
def decode (paths : ScalarPaths) (coders : Coders) (v : Json) : Except DecodeError Json :=
  decodeAt paths coders [] v

end ScalarPaths

/-- The data of a response to a selection, decoded. -/
def SelectionSet.decodeResponse (schema : Schema) (coders : Coders) (operation : String)
    (s : SelectionSet) (data : Json) : Except DecodeError Json :=
  if coders.isEmpty then .ok data
  else
    let paths := s.scalarPaths schema (schema.rootType operation)
    if paths.isEmpty then .ok data else paths.decode coders data

end FieldQuery
