/-
**From tokens to a tree.**

A document is a tree of scalars, sequences and mappings.  A node may be given a name by an anchor
and be used again by that name; a name may also be used inside the node that it names, and such a
tree has no end.

Main definitions:

* `Yaml.Scalar`, `Yaml.Node` — scalars and trees;
* `Yaml.node?` — the tree at the start of a list of tokens;
* `Yaml.read?` — the tree of a text that holds exactly one document.
-/

import FieldQuery.Yaml.Layout

set_option autoImplicit false

namespace FieldQuery.Yaml

/-- A scalar: its text, whether it was written without quotes and the like, and its tag. -/
structure Scalar where
  text : String
  plain : Bool
  tag : Option Tag
deriving DecidableEq, Repr

/-- A tree.  `shared` is a node used again, and `endless` the use of a name inside the node that it
names. -/
inductive Node where
  | scalar (s : Scalar)
  | sequence (items : List Node)
  | mapping (entries : List (Node × Node))
  | shared (node : Node)
  | endless
deriving Inhabited

/-- The node where nothing is written. -/
def Node.absent : Node := .scalar ⟨"~", true, none⟩

/-! ### Anchors -/

/-- The nodes that have names; a node that is still being read has no tree yet. -/
abbrev Anchors := List (List Char × Option Node)

namespace Anchors

/-- The node of a name. -/
def get? : Anchors → List Char → Option (Option Node)
  | [], _ => none
  | (k, n) :: r, name => if k = name then some n else get? r name

end Anchors

/-- What comes before the content of a node. -/
structure Properties where
  anchor : Option (List Char)
  tag : Option Tag

/-- The properties at the start of a list of tokens: an anchor and a tag in either order. -/
def properties : List Token → Properties × List Token
  | .anchor name :: .tag tag :: r => (⟨some name, some tag⟩, r)
  | .anchor name :: r => (⟨some name, none⟩, r)
  | .tag tag :: .anchor name :: r => (⟨some name, some tag⟩, r)
  | .tag tag :: r => (⟨none, some tag⟩, r)
  | r => (⟨none, none⟩, r)

/-- A name for a node that is about to be read. -/
def Properties.open (p : Properties) (names : Anchors) : Anchors :=
  match p.anchor with
  | some name => (name, none) :: names
  | none => names

/-- The name of a node that has been read. -/
def Properties.close (p : Properties) (n : Node) (names : Anchors) : Anchors :=
  match p.anchor with
  | some name => names.map fun e => if e.1 = name ∧ e.2.isNone then (name, some n) else e
  | none => names

/-- A result, the tokens after it, and the names known then. -/
abbrev Reading (α : Type) := α × List Token × Anchors

/-- Where a node stands: among blocks or between brackets, and whether the entries of a sequence
may stand in the column of the mapping around them. -/
inductive Place where
  | block
  | blockValue
  | flow
deriving DecidableEq

/-- The token begins another part of a mapping in a block. -/
def endsBlockPart : List Token → Bool
  | .key :: _ => true
  | .value :: _ => true
  | .blockEnd :: _ => true
  | _ => false

/-- The token ends an entry of a sequence in a block. -/
def endsBlockEntry : List Token → Bool
  | .blockEntry :: _ => true
  | .blockEnd :: _ => true
  | _ => false

/-- The token ends an entry of a sequence in the column of the mapping around it. -/
def endsLooseEntry : List Token → Bool
  | .blockEntry :: _ => true
  | ts => endsBlockPart ts

mutual

/-- The node at the start of a list of tokens. -/
def node? (fuel : Nat) (place : Place) (names : Anchors) (ts : List Token) :
    Option (Reading Node) :=
  match fuel with
  | 0 => none
  | fuel + 1 =>
    match ts with
    | .anchorUse name :: r =>
      match Anchors.get? names name with
      | some (some n) => some (.shared n, r, names)
      | some none => some (.endless, r, names)
      | none => none
    | _ =>
      let (p, ts) := properties ts
      let names := p.open names
      let named (r : Option (Reading Node)) : Option (Reading Node) :=
        r.map fun (n, ts, names) => (n, ts, p.close n names)
      match ts with
      | .scalar plain text :: r =>
        named (some (.scalar ⟨String.ofList text, plain, p.tag⟩, r, names))
      | .flowSequence :: r => named (flowItems? fuel true names r)
      | .flowMapping :: r => named (flowEntries? fuel true names r)
      | ts =>
        let bare : Option (Reading Node) :=
          if p.anchor.isSome || p.tag.isSome then
            named (some (.scalar ⟨"", true, p.tag⟩, ts, names))
          else none
        if place = .flow then bare
        else
          match ts with
          | .blockEntry :: _ =>
            if place = .blockValue then named (looseItems? fuel names ts) else bare
          | .blockSequence :: r => named (blockItems? fuel names r)
          | .blockMapping :: r => named (blockEntries? fuel names r)
          | _ => bare

/-- The entries of a sequence in a block, up to its end. -/
def blockItems? (fuel : Nat) (names : Anchors) (ts : List Token) : Option (Reading Node) :=
  match fuel with
  | 0 => none
  | fuel + 1 =>
    match ts with
    | .blockEnd :: r => some (.sequence [], r, names)
    | .blockEntry :: r => do
      let (n, r, names) ←
        if endsBlockEntry r then some (Node.absent, r, names) else node? fuel .block names r
      let (rest, r, names) ← blockItems? fuel names r
      match rest with
      | .sequence ns => some (.sequence (n :: ns), r, names)
      | _ => none
    | _ => none

/-- The entries of a sequence in the column of the mapping around it. -/
def looseItems? (fuel : Nat) (names : Anchors) (ts : List Token) : Option (Reading Node) :=
  match fuel with
  | 0 => none
  | fuel + 1 =>
    match ts with
    | .blockEntry :: r => do
      let (n, r, names) ←
        if endsLooseEntry r then some (Node.absent, r, names) else node? fuel .block names r
      let (rest, r, names) ← looseItems? fuel names r
      match rest with
      | .sequence ns => some (.sequence (n :: ns), r, names)
      | _ => none
    | ts => some (.sequence [], ts, names)

/-- The entries of a mapping in a block, up to its end. -/
def blockEntries? (fuel : Nat) (names : Anchors) (ts : List Token) : Option (Reading Node) :=
  match fuel with
  | 0 => none
  | fuel + 1 =>
    match ts with
    | .blockEnd :: r => some (.mapping [], r, names)
    | _ => do
      let (k, r, names) ←
        match ts with
        | .key :: r =>
          if endsBlockPart r then some (Node.absent, r, names) else node? fuel .blockValue names r
        | .value :: r => some (Node.absent, .value :: r, names)
        | _ => none
      let (v, r, names) ←
        match r with
        | .value :: r =>
          if endsBlockPart r then some (Node.absent, r, names) else node? fuel .blockValue names r
        | r => some (Node.absent, r, names)
      let (rest, r, names) ← blockEntries? fuel names r
      match rest with
      | .mapping es => some (.mapping ((k, v) :: es), r, names)
      | _ => none

/-- The elements of a sequence between brackets, up to its end. -/
def flowItems? (fuel : Nat) (first : Bool) (names : Anchors) (ts : List Token) :
    Option (Reading Node) :=
  match fuel with
  | 0 => none
  | fuel + 1 =>
    match ts with
    | .flowSequenceEnd :: r => some (.sequence [], r, names)
    | _ => do
      let r ←
        match first, ts with
        | true, ts => some ts
        | false, .flowEntry :: r => some r
        | false, _ => none
      match r with
      | .flowSequenceEnd :: r => some (.sequence [], r, names)
      | r =>
        let (n, r, names) ←
          match r with
          | .key :: r => flowPair? fuel names r
          | r => node? fuel .flow names r
        let (rest, r, names) ← flowItems? fuel false names r
        match rest with
        | .sequence ns => some (.sequence (n :: ns), r, names)
        | _ => none

/-- A single entry that stands as an element; its key has been announced. -/
def flowPair? (fuel : Nat) (names : Anchors) (ts : List Token) : Option (Reading Node) :=
  match fuel with
  | 0 => none
  | fuel + 1 => do
    let (k, r, names) ←
      match ts with
      | .value :: r => some (Node.absent, r, names)
      | .flowEntry :: r => some (Node.absent, r, names)
      | .flowSequenceEnd :: r => some (Node.absent, r, names)
      | ts => node? fuel .flow names ts
    match r with
    | .value :: .flowEntry :: r => some (.mapping [(k, Node.absent)], .flowEntry :: r, names)
    | .value :: .flowSequenceEnd :: r =>
      some (.mapping [(k, Node.absent)], .flowSequenceEnd :: r, names)
    | .value :: r => do
      let (v, r, names) ← node? fuel .flow names r
      some (.mapping [(k, v)], r, names)
    | r => some (.mapping [(k, Node.absent)], r, names)

/-- The entries of a mapping between brackets, up to its end. -/
def flowEntries? (fuel : Nat) (first : Bool) (names : Anchors) (ts : List Token) :
    Option (Reading Node) :=
  match fuel with
  | 0 => none
  | fuel + 1 =>
    match ts with
    | .flowMappingEnd :: r => some (.mapping [], r, names)
    | _ => do
      let r ←
        match first, ts with
        | true, ts => some ts
        | false, .flowEntry :: r => some r
        | false, _ => none
      match r with
      | .flowMappingEnd :: r => some (.mapping [], r, names)
      | r =>
        let (e, r, names) ← flowEntry? fuel names r
        let (rest, r, names) ← flowEntries? fuel false names r
        match rest with
        | .mapping es => some (.mapping (e :: es), r, names)
        | _ => none

/-- An entry of a mapping between brackets; a key that was not announced has no value. -/
def flowEntry? (fuel : Nat) (names : Anchors) (ts : List Token) : Option (Reading (Node × Node)) :=
  match fuel with
  | 0 => none
  | fuel + 1 => do
    let (k, r, names) ←
      match ts with
      | .key :: .value :: r => some (Node.absent, .value :: r, names)
      | .key :: .flowEntry :: r => some (Node.absent, .flowEntry :: r, names)
      | .key :: .flowMappingEnd :: r => some (Node.absent, .flowMappingEnd :: r, names)
      | .key :: r => node? fuel .flow names r
      | .value :: r => some (Node.absent, .value :: r, names)
      | ts => node? fuel .flow names ts
    let announced :=
      match ts with
      | .key :: _ => true
      | .value :: _ => true
      | _ => false
    if !announced then some ((k, Node.absent), r, names)
    else
      match r with
      | .value :: .flowEntry :: r => some ((k, Node.absent), .flowEntry :: r, names)
      | .value :: .flowMappingEnd :: r => some ((k, Node.absent), .flowMappingEnd :: r, names)
      | .value :: r => do
        let (v, r, names) ← node? fuel .flow names r
        some ((k, v), r, names)
      | r => some ((k, Node.absent), r, names)

end

/-! ### Documents -/

/-- The tokens after the directives. -/
def afterDirectives : List Token → List Token
  | .directive :: r => afterDirectives r
  | ts => ts

/-- The tokens after the marks that end a document. -/
def afterDocumentEnds : List Token → List Token
  | .documentEnd :: r => afterDocumentEnds r
  | ts => ts

/-- The content of a document that was announced by its mark. -/
def announcedContent? (fuel : Nat) (ts : List Token) : Option (Reading Node) :=
  match ts with
  | [] => some (Node.absent, ts, [])
  | .directive :: _ => some (Node.absent, ts, [])
  | .documentStart :: _ => some (Node.absent, ts, [])
  | .documentEnd :: _ => some (Node.absent, ts, [])
  | ts => node? fuel .block [] ts

/-- The first document of a list of tokens; only there may the mark be left out. -/
def document? (fuel : Nat) (ts : List Token) : Option (Node × List Token) := do
  let announced :=
    match ts with
    | .directive :: _ => true
    | .documentStart :: _ => true
    | _ => false
  let (n, r, _) ←
    if announced then
      match afterDirectives ts with
      | .documentStart :: r => announcedContent? fuel r
      | _ => none
    else if ts.isEmpty then none
    else node? fuel .block [] ts
  return (n, afterDocumentEnds r)

/-- The tree of a text that holds exactly one document. -/
def read? (text : String) : Option Node := do
  let ts ← tokens? text.toList
  let (n, rest) ← document? (4 * ts.length + 4) ts
  if rest.isEmpty then some n else none

end FieldQuery.Yaml
