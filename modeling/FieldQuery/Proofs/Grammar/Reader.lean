/-
**Reading a selection.**

A server reads the body of a query as a set of members: fields, under their own name or another
one, with arguments and with members of their own, and fragments that stand in place.  The reader
takes its tokens from the front, production by production; a set may be empty, and so may an
object, but parentheses may not.

Main definitions:

* `QueryNode` — a member as it is read;
* `Grammar.value?` — the value at the start of tokens, and what follows it;
* `Grammar.node?`, `Grammar.members?` — the member, and the members up to the end of their set;
* `Grammar.readValue`, `Grammar.read` — the value, and the members of the set, that a whole text
  spells.

Main results:

* `Grammar.value?_tokens` — the tokens of a value are read as the value;
* `Grammar.members?_tokens` — the tokens of members are read as the members.
-/

import FieldQuery.Proofs.Grammar.Token
import FieldQuery.Proofs.Query.Value
import FieldQuery.Selection.Basic

set_option autoImplicit false

namespace FieldQuery

/-- A member of a set as it is read. -/
inductive QueryNode where
  | leaf (key : MemberKey) (arguments : List (String × QueryValue))
  | set (key : MemberKey) (arguments : List (String × QueryValue)) (members : List QueryNode)
  | fragment (type : String) (members : List QueryNode)
deriving Inhabited

namespace Grammar

/-! ### Values -/

/-- The value that a name by itself stands for. -/
def named (s : String) : QueryValue :=
  if s = "true" then .bool true
  else if s = "false" then .bool false
  else if s = "null" then .null
  else .enumeration s

mutual

/-- The value at the start of tokens, and what follows it.  The first argument bounds the depth of
the reading; the number of tokens is enough. -/
def value? : Nat → List Token → Option (QueryValue × List Token)
  | _ + 1, .dollar :: .name s :: r => some (.variable s, r)
  | _ + 1, .name s :: r => some (named s, r)
  | _ + 1, .number x :: r => some (.number x, r)
  | _ + 1, .string s :: r => some (.string s, r)
  | n + 1, .openSquare :: r => (items? n r).map fun x => (.list x.1, x.2)
  | n + 1, .openCurly :: r => (entries? .closeCurly n r).map fun x => (.object x.1, x.2)
  | _, _ => none

/-- The elements up to the end of their list, and what follows it. -/
def items? : Nat → List Token → Option (List QueryValue × List Token)
  | 0, _ => none
  | _ + 1, .closeSquare :: r => some ([], r)
  | n + 1, ts => do
    let (v, r) ← value? n ts
    let (vs, r) ← items? n r
    return (v :: vs, r)

/-- The entries up to the token that closes them, and what follows it. -/
def entries? (close : Token) : Nat → List Token → Option (List (String × QueryValue) × List Token)
  | n + 1, .name k :: .colon :: r => do
    let (v, r) ← value? n r
    let (es, r) ← entries? close n r
    return ((k, v) :: es, r)
  | _ + 1, t :: r => if t = close then some ([], r) else none
  | _, _ => none

end

/-! ### Members -/

/-- The name of a field, or another name and the name of a field, and what follows. -/
def key? : List Token → Option (MemberKey × List Token)
  | .name a :: .colon :: .name f :: r => some (.aliased a f, r)
  | .name f :: r => some (.plain f, r)
  | _ => none

/-- The arguments of a field, if there are any, and what follows. -/
def arguments? : List Token → Option (List (String × QueryValue) × List Token)
  | .openRound :: r =>
    (entries? .closeRound r.length r).bind fun x => if x.1.isEmpty then none else some x
  | ts => some ([], ts)

mutual

/-- The member at the start of tokens, and what follows it. -/
def node? : Nat → List Token → Option (QueryNode × List Token)
  | n + 1, .spread :: .name on :: .name type :: .openCurly :: r =>
    if on = "on" then (members? n r).map fun x => (.fragment type x.1, x.2) else none
  | n + 1, ts => do
    let (key, r) ← key? ts
    let (arguments, r) ← arguments? r
    match r with
    | .openCurly :: r => (members? n r).map fun x => (.set key arguments x.1, x.2)
    | r => some (.leaf key arguments, r)
  | _, _ => none

/-- The members up to the end of their set, and what follows it. -/
def members? : Nat → List Token → Option (List QueryNode × List Token)
  | 0, _ => none
  | _ + 1, .closeCurly :: r => some ([], r)
  | n + 1, ts => do
    let (x, r) ← node? n ts
    let (xs, r) ← members? n r
    return (x :: xs, r)

end

/-- The value that a whole text spells. -/
def readValue (text : String) : Option QueryValue :=
  match scan text.toList with
  | some ts =>
    match value? ts.length ts with
    | some (v, []) => some v
    | _ => none
  | none => none

/-- The members of the set that a whole text spells. -/
def read (text : String) : Option (List QueryNode) :=
  match scan text.toList with
  | some (.openCurly :: r) =>
    match members? r.length r with
    | some (ms, []) => some ms
    | _ => none
  | _ => none

end Grammar

/-! ### Tokens of values and members -/

namespace QueryValue

open Grammar

mutual

/-- The tokens of a value. -/
def tokens : QueryValue → List Token
  | .variable name => [.dollar, .name name]
  | .enumeration name => [.name name]
  | .null => [.name "null"]
  | .bool b => [.name (if b then "true" else "false")]
  | .number n => [.number n]
  | .string s => [.string s]
  | .list items => .openSquare :: (itemTokens items ++ [.closeSquare])
  | .object entries => .openCurly :: (entryTokens entries ++ [.closeCurly])
  | .verbatim _ => []

/-- The tokens of elements. -/
def itemTokens : List QueryValue → List Token
  | [] => []
  | v :: r => tokens v ++ itemTokens r

/-- The tokens of entries. -/
def entryTokens : List (String × QueryValue) → List Token
  | [] => []
  | (k, v) :: r => .name k :: .colon :: (tokens v ++ entryTokens r)

end

mutual

/-- Every name in the value is a name of the language, no enumeration value is a reserved name, and
nothing in it was written by an encoder. -/
def Readable : QueryValue → Prop
  | .variable name => isName name = true
  | .enumeration name => isName name = true ∧ name ∉ ["true", "false", "null"]
  | .list items => ItemsReadable items
  | .object entries => EntriesReadable entries
  | .verbatim _ => False
  | _ => True

/-- All elements are readable. -/
def ItemsReadable : List QueryValue → Prop
  | [] => True
  | v :: r => Readable v ∧ ItemsReadable r

/-- All entries are readable. -/
def EntriesReadable : List (String × QueryValue) → Prop
  | [] => True
  | (k, v) :: r => isName k = true ∧ Readable v ∧ EntriesReadable r

end

end QueryValue

namespace QueryNode

open Grammar

/-- The tokens of the key of a field. -/
def keyTokens : MemberKey → List Token
  | .plain key => [.name key]
  | .aliased alternative field => [.name alternative, .colon, .name field]

/-- The tokens of the arguments of a field. -/
def argumentTokens (arguments : List (String × QueryValue)) : List Token :=
  if arguments.isEmpty then []
  else .openRound :: (QueryValue.entryTokens arguments ++ [.closeRound])

mutual

/-- The tokens of a member. -/
def tokens : QueryNode → List Token
  | .leaf key arguments => keyTokens key ++ argumentTokens arguments
  | .set key arguments members =>
    keyTokens key ++ argumentTokens arguments ++
      .openCurly :: (memberTokens members ++ [.closeCurly])
  | .fragment type members =>
    .spread :: .name "on" :: .name type :: .openCurly :: (memberTokens members ++ [.closeCurly])

/-- The tokens of members. -/
def memberTokens : List QueryNode → List Token
  | [] => []
  | x :: r => tokens x ++ memberTokens r

end

/-- The names in the key of a field are names of the language. -/
def isKey : MemberKey → Bool
  | .plain key => isName key
  | .aliased alternative field => isName alternative && isName field

mutual

/-- Every name in the member is a name of the language, and all its arguments are readable. -/
def Readable : QueryNode → Prop
  | .leaf key arguments => isKey key = true ∧ QueryValue.EntriesReadable arguments
  | .set key arguments members =>
    isKey key = true ∧ QueryValue.EntriesReadable arguments ∧ MembersReadable members
  | .fragment type members => isName type = true ∧ MembersReadable members

/-- All members are readable. -/
def MembersReadable : List QueryNode → Prop
  | [] => True
  | x :: r => Readable x ∧ MembersReadable r

end

end QueryNode

namespace Grammar

open QueryValue QueryNode

/-! ### Reading the tokens of values -/

theorem items?_of_head {ts : List Token} (h : ts.head? ≠ some .closeSquare) (n : Nat) :
    items? (n + 1) ts = (value? n ts).bind fun x =>
      (items? n x.2).map fun y => (x.1 :: y.1, y.2) := by
  have hitems : items? (n + 1) ts = (do
      let (v, r) ← value? n ts
      let (vs, r) ← items? n r
      return (v :: vs, r)) := by
    cases ts with
    | nil => rfl
    | cons t r => cases t <;> first | rfl | exact absurd rfl h
  rw [hitems]
  cases value? n ts with
  | none => rfl
  | some x =>
    change (items? n x.2 >>= _) = _
    cases hr : items? n x.2 <;> simp [hr]

/-- The tokens of a value begin with none that closes a list. -/
theorem head?_tokens {v : QueryValue} (h : v.Readable) (r : List Token) :
    (v.tokens ++ r).head? ≠ some .closeSquare := by
  cases v with
  | verbatim t => exact absurd h (by simp [QueryValue.Readable])
  | _ => simp [QueryValue.tokens]

theorem length_tokens_pos {v : QueryValue} (h : v.Readable) : 0 < v.tokens.length := by
  cases v with
  | verbatim t => exact absurd h (by simp [QueryValue.Readable])
  | _ => simp [QueryValue.tokens]

theorem named_of_not_mem {s : String} (h : s ∉ ["true", "false", "null"]) :
    named s = .enumeration s := by
  simp only [List.mem_cons, List.not_mem_nil, or_false, not_or] at h
  rw [named, if_neg h.1, if_neg h.2.1, if_neg h.2.2]

theorem entries?_close {close : Token} (h : ∀ k, close ≠ .name k) (n : Nat) (r : List Token) :
    entries? close (n + 1) (close :: r) = some ([], r) := by
  cases close with
  | name k => exact absurd rfl (h k)
  | _ => simp [entries?]

mutual

/-- **The tokens of a value** are read as the value. -/
theorem value?_tokens : ∀ (v : QueryValue) {n : Nat} (r : List Token), v.Readable →
    v.tokens.length ≤ n → value? n (v.tokens ++ r) = some (v, r)
  | .variable name, n + 1, r, _, _ => rfl
  | .enumeration name, n + 1, r, h, _ => by
    change some (named name, r) = _
    rw [named_of_not_mem h.2]
  | .null, n + 1, r, _, _ => rfl
  | .bool true, n + 1, r, _, _ => rfl
  | .bool false, n + 1, r, _, _ => rfl
  | .number x, n + 1, r, _, _ => rfl
  | .string s, n + 1, r, _, _ => rfl
  | .list items, n + 1, r, h, hn => by
    have hlength : (itemTokens items).length + 1 ≤ n := by
      simp only [QueryValue.tokens, List.length_cons, List.length_append, List.length_nil] at hn
      omega
    change (items? n (itemTokens items ++ [.closeSquare] ++ r)).map _ = _
    rw [List.append_assoc, List.singleton_append, items?_tokens items r h hlength]
    rfl
  | .object entries, n + 1, r, h, hn => by
    have hlength : (entryTokens entries).length + 1 ≤ n := by
      simp only [QueryValue.tokens, List.length_cons, List.length_append, List.length_nil] at hn
      omega
    have hclose : ∀ k, Token.closeCurly ≠ .name k := by
      intro k
      exact nofun
    change (entries? .closeCurly n (entryTokens entries ++ [.closeCurly] ++ r)).map _ = _
    rw [List.append_assoc, List.singleton_append, entries?_tokens hclose entries r h hlength]
    rfl
  | .verbatim _, _, _, h, _ => absurd h (by simp [QueryValue.Readable])

/-- The tokens of elements are read as the elements. -/
theorem items?_tokens : ∀ (vs : List QueryValue) {n : Nat} (r : List Token), ItemsReadable vs →
    (itemTokens vs).length + 1 ≤ n →
      items? n (itemTokens vs ++ .closeSquare :: r) = some (vs, r)
  | [], n + 1, r, _, _ => rfl
  | v :: vs, n + 1, r, h, hn => by
    obtain ⟨hv, hvs⟩ := h
    have hpos := length_tokens_pos hv
    rw [itemTokens, List.length_append] at hn
    rw [itemTokens, List.append_assoc, items?_of_head (head?_tokens hv _),
      value?_tokens v _ hv (by omega), Option.bind_some, items?_tokens vs r hvs (by omega)]
    rfl

/-- The tokens of entries are read as the entries. -/
theorem entries?_tokens {close : Token} (hclose : ∀ k, close ≠ .name k) :
    ∀ (es : List (String × QueryValue)) {n : Nat} (r : List Token), EntriesReadable es →
      (entryTokens es).length + 1 ≤ n →
        entries? close n (entryTokens es ++ close :: r) = some (es, r)
  | [], n + 1, r, _, _ => entries?_close hclose n r
  | (k, v) :: es, n + 1, r, h, hn => by
    obtain ⟨-, hv, hes⟩ := h
    rw [entryTokens, List.length_cons, List.length_cons, List.length_append] at hn
    rw [entryTokens, List.cons_append, List.cons_append, List.append_assoc, entries?,
      value?_tokens v _ hv (by omega)]
    change (entries? close n (entryTokens es ++ close :: r) >>= _) = _
    rw [entries?_tokens hclose es r hes (by omega)]
    rfl

end

/-! ### Reading the tokens of members -/

/-- What follows a member goes on with none of its parts. -/
def EndsMember (ts : List Token) : Prop :=
  ts.head? ≠ some .colon ∧ ts.head? ≠ some .openRound ∧ ts.head? ≠ some .openCurly

theorem key?_tokens (key : MemberKey) {r : List Token} (h : r.head? ≠ some .colon) :
    key? (keyTokens key ++ r) = some (key, r) := by
  cases key with
  | plain key =>
    cases r with
    | nil => rfl
    | cons t r => cases t <;> first | rfl | exact absurd rfl h
  | aliased alternative field => rfl

theorem arguments?_tokens {es : List (String × QueryValue)} (hes : EntriesReadable es)
    {r : List Token} (h : r.head? ≠ some .openRound) :
    arguments? (argumentTokens es ++ r) = some (es, r) := by
  cases es with
  | nil =>
    cases r with
    | nil => rfl
    | cons t r => cases t <;> first | rfl | exact absurd rfl h
  | cons e es =>
    have hlength : (entryTokens (e :: es)).length + 1 ≤
        (entryTokens (e :: es) ++ .closeRound :: r).length := by
      simp only [List.length_append, List.length_cons]
      omega
    have hargs : argumentTokens (e :: es) ++ r =
        .openRound :: (entryTokens (e :: es) ++ .closeRound :: r) := by
      simp [argumentTokens]
    have hclose : ∀ k, Token.closeRound ≠ .name k := by
      intro k
      exact nofun
    rw [hargs, arguments?, entries?_tokens hclose (e :: es) r hes hlength]
    rfl

theorem head?_keyTokens (key : MemberKey) (r : List Token) :
    ∃ name, (keyTokens key ++ r).head? = some (.name name) := by
  cases key with
  | plain key => exact ⟨key, rfl⟩
  | aliased alternative field => exact ⟨alternative, rfl⟩

/-- The tokens of a member begin with a name or with dots. -/
theorem head?_nodeTokens (x : QueryNode) (r : List Token) :
    (∃ name, (x.tokens ++ r).head? = some (.name name)) ∨
      (x.tokens ++ r).head? = some .spread := by
  cases x with
  | leaf key arguments =>
    rw [QueryNode.tokens, List.append_assoc]
    exact .inl (head?_keyTokens key _)
  | set key arguments members =>
    rw [QueryNode.tokens, List.append_assoc, List.append_assoc]
    exact .inl (head?_keyTokens key _)
  | fragment type members => exact .inr rfl

theorem length_nodeTokens_pos (x : QueryNode) : 0 < x.tokens.length := by
  have hhead := head?_nodeTokens x []
  rw [List.append_nil] at hhead
  cases htokens : x.tokens with
  | nil => simp [htokens] at hhead
  | cons t r => simp

/-- What follows a member in its set goes on with none of its parts. -/
theorem endsMember_memberTokens (xs : List QueryNode) (r : List Token) :
    EndsMember (memberTokens xs ++ .closeCurly :: r) := by
  cases xs with
  | nil => exact ⟨nofun, nofun, nofun⟩
  | cons x xs =>
    rw [memberTokens, List.append_assoc]
    rcases head?_nodeTokens x (memberTokens xs ++ .closeCurly :: r) with ⟨name, h⟩ | h <;>
      simp [EndsMember, h]

theorem head?_argumentTokens_append (es : List (String × QueryValue)) {r : List Token}
    (h : r.head? ≠ some .colon) : (argumentTokens es ++ r).head? ≠ some .colon := by
  cases es with
  | nil => exact h
  | cons e es => simp [argumentTokens]

/-- A member that begins with a name is a field. -/
theorem node?_of_head {ts : List Token} {name : String} (h : ts.head? = some (.name name))
    (n : Nat) :
    node? (n + 1) ts = (key? ts).bind fun k => (arguments? k.2).bind fun a =>
      match a.2 with
      | .openCurly :: r => (members? n r).map fun x => (.set k.1 a.1 x.1, x.2)
      | r => some (.leaf k.1 a.1, r) := by
  cases ts with
  | nil => cases h
  | cons t r =>
    obtain rfl : t = .name name := by simpa using h
    -- the second equation of `node?` asks that the first, for fragments, does not apply
    rw [node?]
    · cases key? (.name name :: r) with
      | none => rfl
      | some k => cases arguments? k.2 <;> rfl
    · exact nofun

theorem members?_of_head {ts : List Token} (h : ts.head? ≠ some .closeCurly) (n : Nat) :
    members? (n + 1) ts = (node? n ts).bind fun x =>
      (members? n x.2).map fun y => (x.1 :: y.1, y.2) := by
  have hmembers : members? (n + 1) ts = (do
      let (x, r) ← node? n ts
      let (xs, r) ← members? n r
      return (x :: xs, r)) := by
    cases ts with
    | nil => rfl
    | cons t r => cases t <;> first | rfl | exact absurd rfl h
  rw [hmembers]
  cases node? n ts with
  | none => rfl
  | some x =>
    change (members? n x.2 >>= _) = _
    cases hr : members? n x.2 <;> simp [hr]

mutual

/-- The tokens of a member are read as the member. -/
theorem node?_tokens : ∀ (x : QueryNode) {n : Nat} {r : List Token}, x.Readable →
    EndsMember r → x.tokens.length ≤ n → node? n (x.tokens ++ r) = some (x, r)
  | x, 0, _, _, _, hn => absurd hn (Nat.not_le_of_gt (length_nodeTokens_pos x))
  | .leaf key arguments, n + 1, r, h, hr, _ => by
    obtain ⟨name, hname⟩ := head?_keyTokens key (argumentTokens arguments ++ r)
    rw [QueryNode.tokens, List.append_assoc, node?_of_head hname,
      key?_tokens key (head?_argumentTokens_append arguments hr.1), Option.bind_some,
      arguments?_tokens h.2 hr.2.1, Option.bind_some]
    -- no brace follows, so the member has no members of its own
    cases r with
    | nil => rfl
    | cons t r => cases t <;> first | rfl | exact absurd rfl hr.2.2
  | .set key arguments members, n + 1, r, h, hr, hn => by
    have hlength : (memberTokens members).length + 1 ≤ n := by
      have hkey : 0 < (keyTokens key).length := by cases key <;> simp [keyTokens]
      simp only [QueryNode.tokens, List.length_cons, List.length_append, List.length_nil] at hn
      omega
    obtain ⟨name, hname⟩ := head?_keyTokens key
      (argumentTokens arguments ++ .openCurly :: (memberTokens members ++ .closeCurly :: r))
    have htokens : (QueryNode.set key arguments members).tokens ++ r = keyTokens key ++
        (argumentTokens arguments ++ .openCurly :: (memberTokens members ++ .closeCurly :: r)) := by
      simp [QueryNode.tokens]
    rw [htokens, node?_of_head hname,
      key?_tokens key (head?_argumentTokens_append arguments (by simp)), Option.bind_some,
      arguments?_tokens h.2.1 (by simp), Option.bind_some]
    dsimp only
    rw [members?_tokens members h.2.2 hlength]
    rfl
  | .fragment type members, n + 1, r, h, hr, hn => by
    have hlength : (memberTokens members).length + 1 ≤ n := by
      simp only [QueryNode.tokens, List.length_cons, List.length_append, List.length_nil] at hn
      omega
    have htokens : (QueryNode.fragment type members).tokens ++ r =
        .spread :: .name "on" :: .name type :: .openCurly ::
          (memberTokens members ++ .closeCurly :: r) := by
      simp [QueryNode.tokens]
    rw [htokens, node?, if_pos rfl, members?_tokens members h.2 hlength]
    rfl

/-- **The tokens of members** are read as the members. -/
theorem members?_tokens : ∀ (xs : List QueryNode) {n : Nat} {r : List Token},
    MembersReadable xs → (memberTokens xs).length + 1 ≤ n →
      members? n (memberTokens xs ++ .closeCurly :: r) = some (xs, r)
  | [], n + 1, r, _, _ => rfl
  | x :: xs, n + 1, r, h, hn => by
    obtain ⟨hx, hxs⟩ := h
    have hpos := length_nodeTokens_pos x
    rw [memberTokens, List.length_append] at hn
    have hhead : (x.tokens ++ (memberTokens xs ++ .closeCurly :: r)).head? ≠ some .closeCurly := by
      rcases head?_nodeTokens x (memberTokens xs ++ .closeCurly :: r) with ⟨name, h⟩ | h <;>
        simp [h]
    rw [memberTokens, List.append_assoc, members?_of_head hhead,
      node?_tokens x hx (endsMember_memberTokens xs r) (by omega), Option.bind_some,
      members?_tokens xs hxs (by omega)]
    rfl

end

end Grammar

end FieldQuery
