/-
**Reading trees.**

A tree is read either as any document or as a value of a certain form.  Where a text is wanted any
scalar will do, whatever it looks like, and a record may also be written as the sequence of its
fields in their order.

Main definitions:

* `Yaml.Node.content?` — the content of a tree, repeated names included;
* `Yaml.value?` — the document that a text holds;
* `Yaml.Node.text?`, `Yaml.Node.texts?` — a text, and texts by name;
* `Yaml.Node.fields?` — the fields of a record.
-/

import FieldQuery.Yaml.Typing

set_option autoImplicit false

namespace FieldQuery.Yaml

namespace Node

/-! ### The size of a tree -/

mutual

/-- The number of parts that a tree is written with; a node used again is one part. -/
def size : Node → Nat
  | scalar _ => 1
  | sequence items => 2 + sizeItems items
  | mapping entries => 2 + sizeEntries entries
  | shared _ => 1
  | endless => 1

/-- The number of parts of nodes. -/
def sizeItems : List Node → Nat
  | [] => 0
  | n :: r => size n + sizeItems r

/-- The number of parts of entries. -/
def sizeEntries : List (Node × Node) → Nat
  | [] => 0
  | (k, v) :: r => size k + size v + sizeEntries r

end

mutual

/-- What is left of a number of uses of names after walking a tree; none where it is exceeded. -/
def usesLeft? (uses : Nat) : Node → Option Nat
  | scalar _ => some uses
  | sequence items => usesLeftItems? uses items
  | mapping entries => usesLeftEntries? uses entries
  | shared n => if uses = 0 then none else usesLeft? (uses - 1) n
  | endless => some uses

/-- What is left after walking nodes. -/
def usesLeftItems? (uses : Nat) : List Node → Option Nat
  | [] => some uses
  | n :: r =>
    match usesLeft? uses n with
    | some uses => usesLeftItems? uses r
    | none => none

/-- What is left after walking entries. -/
def usesLeftEntries? (uses : Nat) : List (Node × Node) → Option Nat
  | [] => some uses
  | (k, v) :: r =>
    match usesLeft? uses k with
    | some uses =>
      match usesLeft? uses v with
      | some uses => usesLeftEntries? uses r
      | none => none
    | none => none

end

/-! ### Any document -/

/-- The scalar of a node, used again or not. -/
def scalar? : Node → Option Scalar
  | scalar s => some s
  | shared n => scalar? n
  | _ => none

/-- The greatest number of collections inside each other. -/
def greatestDepth : Nat := 128

mutual

/-- The content of a tree, repeated names included; `name?` makes names of the keys. -/
def content? (name? : Scalar → Option String) (depth : Nat) : Node → Option Json
  | scalar s => s.value?
  | sequence items =>
    if depth = 0 then none else (contents? name? (depth - 1) items).map Json.array
  | mapping entries =>
    if depth = 0 then none else (memberContents? name? (depth - 1) entries).map Json.object
  | shared n => content? name? depth n
  | endless => none

/-- The contents of nodes. -/
def contents? (name? : Scalar → Option String) (depth : Nat) : List Node → Option (List Json)
  | [] => some []
  | n :: r => do
    let v ← content? name? depth n
    return v :: (← contents? name? depth r)

/-- The contents of entries. -/
def memberContents? (name? : Scalar → Option String) (depth : Nat) :
    List (Node × Node) → Option (List (String × Json))
  | [] => some []
  | (k, n) :: r => do
    let s ← k.scalar?
    let name ← name? s
    let v ← content? name? depth n
    return (name, v) :: (← memberContents? name? depth r)

end

/-- The document of a tree; a key is taken by its text. -/
def value? (n : Node) : Option Json :=
  (n.content? (fun s => some s.text) greatestDepth).map Json.merged

/-- The content of a tree in which every key stands for a string. -/
def typedContent? (n : Node) : Option Json :=
  n.content? (fun s => s.value?.bind Json.asString?) greatestDepth

/-! ### Values of a certain form -/

/-- A text: any scalar will do. -/
def text? (n : Node) : Option String := n.scalar?.map Scalar.text

/-- The node stands for nothing; none where its tag says so of something else. -/
def isNull? (n : Node) : Option Bool :=
  match n.scalar? with
  | none => some false
  | some s =>
    let isNull := s.text = "~" ∨ s.text = "null"
    if !s.plain then some false
    else
      match s.tag with
      | some tag =>
        if tag.handle = ['!', '!'] ∧ tag.suffix = ['n', 'u', 'l', 'l'] then
          if isNull then some true else none
        else some false
      | none => some isNull

/-- A text that may be absent. -/
def optionalText? (n : Node) : Option (Option String) := do
  if ← n.isNull? then return none else n.text?.map some

/-- The entries of a mapping, used again or not. -/
def entries? : Node → Option (List (Node × Node))
  | mapping es => some es
  | shared n => entries? n
  | _ => none

/-- The items of a sequence, used again or not. -/
def items? : Node → Option (List Node)
  | sequence ns => some ns
  | shared n => items? n
  | _ => none

/-- Values by the texts of their keys, all of one form. -/
def dictionary? {α : Type} (read : Node → Option α) (n : Node) : Option (Dictionary α) := do
  let es ← n.entries?
  let xs ← es.mapM fun (k, v) => do return ((← k.text?), (← read v))
  return Dictionary.ofEntries xs

/-- Texts by name. -/
def texts? (n : Node) : Option (Dictionary String) := n.dictionary? text?

/-! ### Records -/

/-- The fields among the entries of a mapping, each at most once; what is no field is passed over,
or refused where `strict` says so. -/
def fieldEntries? (names : List String) (strict : Bool) :
    List (Node × Node) → Option (Entries Node)
  | [] => some []
  | (k, v) :: r => do
    let name ← k.text?
    let rest ← fieldEntries? names strict r
    if names.contains name then
      if rest.keys.contains name then none else return (name, v) :: rest
    else if strict then none
    else return rest

/-- The fields of a record: the entries of a mapping, or the items of a sequence in order. -/
def fields? (names : List String) (strict : Bool) (n : Node) : Option (Entries Node) :=
  match n.entries?, n.items? with
  | some es, _ => fieldEntries? names strict es
  | none, some items => if items.length ≤ names.length then some (names.zip items) else none
  | none, none => none

end Node

/-- The tree of a text that holds exactly one document, unless its names are used too often. -/
def tree? (text : String) : Option Node := do
  let n ← read? text
  let _ ← n.usesLeft? (100 * n.size)
  return n

/-- The document that a text holds. -/
def value? (text : String) : Option Json := (tree? text).bind Node.value?

end FieldQuery.Yaml
