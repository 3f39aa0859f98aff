/-
**Addresses of requests.**

An address is read as a browser reads it: blanks around it are dropped, slashes may lean either
way, `.` and `..` are steps in the path and not part of it, and characters that have no place in an
address are written as their bytes.  What follows `#` is never sent, and a user that the address
names is no part of where it leads.

Main definitions:

* `Url` — the parts of an address, with `Url.target`, what is asked of the other side;
* `Url.read?` — the address that a text holds, if it is one for requests;
* `Url.credentials?` — the user that the address names;
* `Url.addPairs` — named values added to the query.
-/

import FieldQuery.Transport.Credentials
import FieldQuery.Transport.Host

set_option autoImplicit false

namespace FieldQuery

/-- The parts of an address: whether the connection is secret, where it goes, and what is asked for
there. -/
structure Url where
  secure : Bool
  host : String
  port : Nat
  path : List (List Char)
  query : Option (List Char)
deriving DecidableEq, Repr

namespace Url

/-! ### Targets -/

/-- The path as text. -/
def pathText (u : Url) : List Char :=
  match u.path with
  | [] => ['/']
  | steps => steps.flatMap ('/' :: ·)

/-- What is asked of the other side: path and query. -/
def target (u : Url) : String :=
  String.ofList (u.pathText ++ match u.query with
    | some q => '?' :: q
    | none => [])

/-- Named values added to the query. -/
def addPairs (ps : List (String × String)) (u : Url) : Url :=
  let added := Text.formPairs ps
  { u with query := some (match u.query with
    | none | some [] => added
    | some q => q ++ '&' :: added) }

/-! ### Paths -/

/-- A printable ASCII character that is none of some others. -/
def isPrintableExcept (others : List Char) (c : Char) : Bool :=
  ' ' < c && c < '\x7f' && !others.contains c

/-- A step in lower case with dots that are written as bytes put back. -/
def plainDots : List Char → List Char
  | '%' :: '2' :: 'e' :: r => '.' :: plainDots r
  | '%' :: '2' :: 'E' :: r => '.' :: plainDots r
  | c :: r => c :: plainDots r
  | [] => []

/-- The steps that lead to the end of a path, from those walked so far in reverse. -/
def walk (done : List (List Char)) : List (List Char) → List (List Char)
  | [] => done.reverse
  | step :: rest =>
    let left := if rest.isEmpty then [[]] else []
    if plainDots step = ['.', '.'] then walk (left ++ done.drop 1) rest
    else if plainDots step = ['.'] then walk (left ++ done) rest
    else walk (Text.percentUnless (isPrintableExcept "\"#<>?`\x7b\x7d".toList) step :: done) rest

/-- A backslash is a slash. -/
def straighten (c : Char) : Char := if c = '\\' then '/' else c

/-- The steps of a path. -/
def steps (cs : List Char) : List (List Char) :=
  match cs.map straighten with
  | [] => [[]]
  | '/' :: r => walk [] (Text.pieces '/' r)
  | r => walk [] (Text.pieces '/' r)

/-! ### Authorities -/

/-- What stands before the last `@`. -/
def userText (authority : List Char) : List Char :=
  authority.take (authority.length - (Text.afterLast '@' authority).length - 1)

/-- Host and port, cut at the first colon that is not `inside` brackets. -/
def cutPort (inside : Bool) : List Char → List Char × List Char
  | [] => ([], [])
  | c :: r =>
    if c = ':' && !inside then ([], r)
    else
      let (host, port) := cutPort (c = '[' || (inside && c != ']')) r
      (c :: host, port)

/-- Host and port, as they stand after the last `@`. -/
def hostAndPort? (standardPort : Nat) (cs : List Char) : Option (String × Nat) := do
  let (hostText, portText) := cutPort false cs
  let host ← Host.ofText? hostText
  let port ← if portText.isEmpty then some standardPort else Host.port? portText
  return (host, port)

/-! ### Reading -/

/-- The ends of a text without blanks and control characters, and no line breaks inside. -/
def cleaned (cs : List Char) : List Char :=
  let drop := List.dropWhile fun c => decide (c ≤ ' ')
  ((drop (drop cs).reverse).reverse).filter fun c => !(['\t', '\n', '\r'].contains c)

/-- The scheme in front of a colon, in lower case, and what follows. -/
def scheme? (cs : List Char) : Option (String × List Char) := do
  let (name, rest) ← Text.cutAt ':' cs
  return (String.ofList (name.map Char.toLower), rest)

/-- The three parts of an address: whether the connection is secret, the authority, and what of the
rest is sent. -/
def split? (text : String) : Option (Bool × List Char × List Char) := do
  let (scheme, rest) ← scheme? (cleaned text.toList)
  let secure ← if scheme = "http" then some false else if scheme = "https" then some true else none
  let rest := rest.dropWhile fun c => c = '/' || c = '\\'
  let ends := fun c => c = '/' || c = '\\' || c = '?' || c = '#'
  let authority := rest.takeWhile fun c => !ends c
  return (secure, authority, (rest.drop authority.length).takeWhile (· ≠ '#'))

/-- The address of requests that a text holds. -/
def read? (text : String) : Option Url := do
  let (secure, authority, sent) ← split? text
  let (host, port) ← hostAndPort? (if secure then 443 else 80) (Text.afterLast '@' authority)
  let (path, query) :=
    match Text.cutAt '?' sent with
    | some (path, query) => (path, some query)
    | none => (sent, none)
  return ⟨secure, host, port, steps path,
    query.map (Text.percentUnless (isPrintableExcept "\"#'<>".toList))⟩

/-- The user that the address names. -/
def credentials? (text : String) : Option Credentials := do
  let (_, authority, _) ← split? text
  Credentials.ofText? (userText authority)

/-- The user stands before the host, and the colons of a number in brackets are not in front of the
port. -/
example : read? "http://me@[::1]:4000/g?x=1#y" =
    some ⟨false, "[::1]", 4000, [['g']], some ['x', '=', '1']⟩ := by
  decide +kernel

end Url

end FieldQuery
