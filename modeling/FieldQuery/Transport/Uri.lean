/-
**Addresses of connections.**

The address of a lasting connection is taken as it is: nothing in it is mended, and a character
that has no place there makes it useless.  An address may be a path alone or a host alone; whether
that is enough is for whoever connects to say.

Main definitions:

* `Uri` — the parts of an address, with `Uri.host`, `Uri.port?` and `Uri.targetText`;
* `Uri.read` — the address that a text holds, or what is wrong with it.
-/

import FieldQuery.Client.Failure
import FieldQuery.Transport.Host

set_option autoImplicit false

namespace FieldQuery

/-- The parts of an address, the scheme if there is one. -/
structure Uri where
  scheme : Option (List Char)
  authority : List Char
  target : List Char
deriving DecidableEq, Repr

namespace Uri

/-! ### Parts -/

/-- The authority without the name of a user. -/
def location (u : Uri) : List Char := Text.afterLast '@' u.authority

/-- The host; an address in brackets is the host without them. -/
def host (u : Uri) : String :=
  String.ofList (match u.location with
    | '[' :: r => r.takeWhile (· ≠ ']')
    | cs => cs.takeWhile (· ≠ ':'))

/-- The number after the last colon, if it is the number of a port. -/
def port? (u : Uri) : Option Nat :=
  if u.location.contains ':' then Host.port? (Text.afterLast ':' u.location) else none

/-- What is asked of the other side; an empty path is the root. -/
def targetText (u : Uri) : String :=
  if u.target.isEmpty then "/" else String.ofList u.target

/-! ### Reading -/

/-- A character between the least and the greatest of a range. -/
def isWithin (least greatest c : Char) : Bool := least ≤ c && c ≤ greatest

/-- A character of a path. -/
def isPathChar (c : Char) : Bool := isWithin '!' '~' c && !"#<>?`".toList.contains c

/-- A character of a query. -/
def isQueryChar (c : Char) : Bool := isWithin '!' '~' c && !"\"#<>".toList.contains c

/-- A character of an authority, the percent sign and brackets aside. -/
def isAuthorityChar (c : Char) : Bool :=
  c.isAlphanum || "!$&'()*+,-./:;=?@[]_~".toList.contains c

/-- A character of a scheme. -/
def isSchemeChar (c : Char) : Bool := c.isAlphanum || c = '+' || c = '-' || c = '.'

/-- Path and query without what follows `#`. -/
def targetOf (cs : List Char) : Except UriFault (List Char) :=
  let sent := cs.takeWhile (· ≠ '#')
  let path := sent.takeWhile (· ≠ '?')
  if !path.all isPathChar then .error .badCharacter
  else if !(sent.drop (path.length + 1)).all isQueryChar then .error .badCharacter
  else .ok sent

/-- What has been seen of an authority: the colons since the last `@` or bracket, the brackets,
whether a percent sign stands where none may, and the last character. -/
structure AuthorityState where
  colons : Nat
  opened : Bool
  shut : Bool
  percent : Bool
  afterAt : Bool

/-- The state after one character more. -/
def AuthorityState.next (s : AuthorityState) (c : Char) : Except UriFault AuthorityState :=
  let s := { s with afterAt := false }
  if c = ':' then
    if s.colons < 8 then .ok { s with colons := s.colons + 1 } else .error .badAuthority
  else if c = '[' then
    if s.percent || s.opened then .error .badAuthority else .ok { s with opened := true }
  else if c = ']' then
    if !s.opened || s.shut then .error .badAuthority
    else .ok { s with shut := true, colons := 0, percent := false }
  else if c = '@' then .ok { s with colons := 0, percent := false, afterAt := true }
  else if c = '%' then .ok { s with percent := true }
  else if isAuthorityChar c then .ok s
  else .error .badCharacter

/-- An authority that ends well. -/
def AuthorityState.isComplete (s : AuthorityState) : Bool :=
  s.opened == s.shut && s.colons ≤ 1 && !s.afterAt && !s.percent

/-- The authority at the front of a text. -/
def authorityOf (cs : List Char) : Except UriFault (List Char) := do
  let authority := cs.takeWhile fun c => c ≠ '/' && c ≠ '?' && c ≠ '#'
  let state ← authority.foldlM AuthorityState.next ⟨0, false, false, false, false⟩
  if state.isComplete then return authority else .error .badAuthority

/-- The scheme at the front of a text and what follows its slashes, if there is one. -/
def schemeOf (cs : List Char) : Except UriFault (Option (List Char × List Char)) :=
  let name := cs.takeWhile isSchemeChar
  match cs.drop name.length with
  | ':' :: '/' :: '/' :: rest =>
    if cs.length ≤ 3 then .ok none
    else if name.length > 64 then .error .longScheme
    else .ok (some (name, rest))
  | _ => .ok none

/-- The greatest number of bytes of an address. -/
def maxBytes : Nat := 65534

/-- The address that characters write. -/
def readChars (cs : List Char) : Except UriFault Uri :=
  match cs with
  | [] => .error .empty
  | '/' :: _ => do return ⟨none, [], ← targetOf cs⟩
  | ['*'] => .ok ⟨none, [], cs⟩
  | _ => do
    match ← schemeOf cs with
    | none =>
      let authority ← authorityOf cs
      if authority.length = cs.length then return ⟨none, authority, []⟩ else .error .badFormat
    | some (scheme, rest) =>
      let authority ← authorityOf rest
      if authority.isEmpty then .error .badFormat
      else return ⟨some scheme, authority, ← targetOf (rest.drop authority.length)⟩

/-- The address that a text holds, or what is wrong with it. -/
def read (text : String) : Except UriFault Uri :=
  if text.utf8ByteSize > maxBytes then .error .tooLong else readChars text.toList

end Uri

end FieldQuery
