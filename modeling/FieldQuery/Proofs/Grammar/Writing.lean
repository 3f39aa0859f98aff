/-
**Texts that are read again.**

A text spells tokens if they are what is read of it in front of anything that does not go on with
its last token.  Such texts can be put together: what stands between two parts is always a
character that ends the part before it.  So the text of a value spells the tokens of the value, the
text of a member those of the member, and what is read of a set are its members.

Main definitions:

* `Grammar.Spells` — the text is read as the tokens;
* `QueryNode.text` — the text of a member.

Main results:

* `QueryValue.spells` — the text of a value spells its tokens;
* `QueryNode.spells` — the text of a member spells its tokens;
* `Grammar.readValue_text` — the text of a value is read as the value;
* `Grammar.read_setText` — the text of a set is read as its members.
-/

import FieldQuery.Proofs.Grammar.Numeral
import FieldQuery.Proofs.Grammar.Reader
import FieldQuery.Query.Compile

set_option autoImplicit false

namespace FieldQuery

namespace Grammar

/-! ### Putting texts together -/

/-- The text is read as the tokens, in front of anything that does not go on with the last. -/
def Spells (cs : List Char) (ts : List Token) : Prop :=
  ∀ r, Boundary r → scan (cs ++ r) = (scan r).map (ts ++ ·)

theorem spells_nil : Spells [] [] := by
  intro r _
  rw [List.nil_append]
  exact Option.map_id'.symm

/-- A character that leaves nothing open before a text. -/
theorem Spells.cons (c : Char) {ts us : List Token} {cs : List Char}
    (hc : Mode.start c = some (.between, ts)) (h : Spells cs us) : Spells (c :: cs) (ts ++ us) := by
  intro r hr
  rw [List.cons_append, scan_cons hc, h r hr, Option.map_map]
  cases scan r <;> simp

/-- Two texts with a character between them that ends the first and leaves nothing open. -/
theorem Spells.append_cons (c : Char) {as bs : List Char} {ss ts us : List Token}
    (ha : Spells as ss) (hend : endsToken c = true) (hc : Mode.start c = some (.between, ts))
    (hb : Spells bs us) : Spells (as ++ c :: bs) (ss ++ (ts ++ us)) := by
  intro r hr
  have hbound : Boundary (c :: bs ++ r) := by
    intro x hx
    obtain rfl : c = x := by simpa using hx
    exact hend
  rw [List.append_assoc, ha _ hbound, Spells.cons c hc hb r hr, Option.map_map]
  cases scan r <;> simp

theorem spells_name {s : String} (h : isName s = true) : Spells s.toList [.name s] :=
  fun _ hr => scan_name h hr

/-- A comma and a blank between two texts. -/
theorem Spells.append_comma {as bs : List Char} {ss us : List Token} (ha : Spells as ss)
    (hb : Spells bs us) : Spells (as ++ ',' :: ' ' :: bs) (ss ++ us) :=
  ha.append_cons ',' (by decide) rfl (hb.cons ' ' rfl)

/-- A blank between two texts. -/
theorem Spells.append_blank {as bs : List Char} {ss us : List Token} (ha : Spells as ss)
    (hb : Spells bs us) : Spells (as ++ ' ' :: bs) (ss ++ us) :=
  ha.append_cons ' ' (by decide) rfl hb

end Grammar

/-! ### Values -/

namespace QueryValue

open Grammar

mutual

/-- **The text of a value** spells its tokens. -/
theorem spells : ∀ v : QueryValue, v.Readable → Spells v.text.toList v.tokens
  | .variable name, h => by
    rw [text, String.toList_append]
    exact (spells_name h).cons '$' rfl
  | .enumeration name, h => spells_name h.1
  | .null, _ => spells_name (by decide)
  | .bool true, _ => spells_name (by decide)
  | .bool false, _ => spells_name (by decide)
  | .number n, _ => by
    rw [text, Json.compact, Json.compactChars, String.toList_ofList]
    exact fun _ hr => scan_toText n hr
  | .string s, _ => by
    rw [text, Json.quote, String.toList_ofList]
    exact fun _ hr => scan_quoted s hr
  | .list items, h => by
    rw [text, String.toList_append, String.toList_append, List.append_assoc]
    exact ((itemsSpell items h).append_cons ']' (by decide) rfl spells_nil).cons '[' rfl
  | .object entries, h => by
    rw [text, String.toList_append, String.toList_append, List.append_assoc]
    exact ((entriesSpell entries h).append_cons '\x7d' (by decide) rfl spells_nil).cons '\x7b' rfl
  | .verbatim _, h => absurd h (by simp [Readable])

theorem itemsSpell : ∀ vs : List QueryValue, ItemsReadable vs →
    Spells (", ".intercalate (itemTexts vs)).toList (itemTokens vs)
  | [], _ => spells_nil
  | [v], h => by
    rw [itemTexts, itemTexts, String.intercalate_singleton, itemTokens, itemTokens,
      List.append_nil]
    exact spells v h.1
  | v :: w :: r, h => by
    have hrest := itemsSpell (w :: r) h.2
    rw [itemTexts, itemTexts, String.intercalate_cons_cons, String.toList_append,
      String.toList_append, List.append_assoc, itemTokens]
    exact (spells v h.1).append_comma hrest

theorem entriesSpell : ∀ es : List (String × QueryValue), EntriesReadable es →
    Spells (", ".intercalate (entryTexts es)).toList (entryTokens es)
  | [], _ => spells_nil
  | [(k, v)], h => by
    rw [entryTexts, entryTexts, String.intercalate_singleton, entryTokens, entryTokens,
      List.append_nil]
    exact entrySpells k v h.1 h.2.1
  | (k, v) :: e :: r, h => by
    have hrest := entriesSpell (e :: r) h.2.2
    rw [entryTexts, entryTexts, String.intercalate_cons_cons, String.toList_append,
      String.toList_append, List.append_assoc, entryTokens]
    exact (entrySpells k v h.1 h.2.1).append_comma hrest

theorem entrySpells (k : String) (v : QueryValue) (hk : isName k = true) (hv : v.Readable) :
    Spells (k ++ ": " ++ v.text).toList (.name k :: .colon :: v.tokens) := by
  rw [String.toList_append, String.toList_append, List.append_assoc]
  exact (spells_name hk).append_cons ':' (by decide) rfl ((spells v hv).cons ' ' rfl)

end

end QueryValue

/-! ### Members -/

namespace QueryNode

open Grammar Selection

/-- The text of a field without members of its own. -/
def fieldText (key : MemberKey) (arguments : List (String × QueryValue)) : String :=
  keyWithArguments key.written (QueryValue.object arguments).argumentsText

mutual

/-- The text of a member. -/
def text : QueryNode → String
  | .leaf key arguments => fieldText key arguments
  | .set key arguments members =>
    fieldText key arguments ++ " " ++ setTextOf (memberTexts members)
  | .fragment type members => "... on " ++ type ++ " " ++ setTextOf (memberTexts members)

/-- The texts of members. -/
def memberTexts : List QueryNode → List String
  | [] => []
  | x :: r => text x :: memberTexts r

end

theorem keySpells {key : MemberKey} (h : isKey key = true) :
    Spells key.written.toList (keyTokens key) := by
  cases key with
  | plain key => exact spells_name h
  | aliased alternative field =>
    rw [isKey, Bool.and_eq_true] at h
    rw [MemberKey.written, String.toList_append, String.toList_append, List.append_assoc]
    exact (spells_name h.1).append_cons ':' (by decide) rfl (spells_name h.2)

/-- Where there are arguments there is text for them. -/
theorem argumentsText_ne_empty (e : String × QueryValue) (es : List (String × QueryValue)) :
    (QueryValue.object (e :: es)).argumentsText ≠ "" := by
  intro hempty
  have hmem : e.1 ++ ": " ++ e.2.text ∈ QueryValue.entryTexts (e :: es) := by
    rw [QueryValue.entryTexts_eq_map]
    exact List.mem_cons_self
  have hstands : (e.1 ++ ": " ++ e.2.text).toList <:+:
      (QueryValue.object (e :: es)).argumentsText.toList := infix_intercalate_of_mem hmem
  rw [hempty, String.toList_empty, List.infix_nil] at hstands
  simp at hstands

theorem fieldSpells {key : MemberKey} {es : List (String × QueryValue)} (hkey : isKey key = true)
    (hes : QueryValue.EntriesReadable es) :
    Spells (fieldText key es).toList (keyTokens key ++ argumentTokens es) := by
  cases es with
  | nil =>
    rw [argumentTokens, List.isEmpty_nil, if_pos rfl, List.append_nil]
    exact keySpells hkey
  | cons e es =>
    -- parentheses are written around a text that is not empty, and read around some entries
    rw [fieldText, keyWithArguments, if_neg (argumentsText_ne_empty e es), String.toList_append,
      String.toList_append, String.toList_append, List.append_assoc, List.append_assoc]
    exact (keySpells hkey).append_cons '(' (by decide) rfl
      ((QueryValue.entriesSpell (e :: es) hes).append_cons ')' (by decide) rfl spells_nil)

theorem spells_spread {cs : List Char} {ts : List Token} (h : Spells cs ts) :
    Spells ('.' :: '.' :: '.' :: cs) (.spread :: ts) := by
  intro r hr
  change scan ('.' :: '.' :: '.' :: (cs ++ r)) = _
  rw [scan_spread, h r hr]
  cases scan r <;> rfl

mutual

/-- **The text of a member** spells its tokens. -/
theorem spells : ∀ x : QueryNode, x.Readable → Spells x.text.toList x.tokens
  | .leaf key arguments, h => fieldSpells h.1 h.2
  | .set key arguments members, h => by
    rw [text, String.toList_append, String.toList_append, List.append_assoc, tokens]
    exact (fieldSpells h.1 h.2.1).append_blank (setSpells members h.2.2)
  | .fragment type members, h => by
    -- the dots are one token, so the word behind them needs no blank, but has one
    have hon : Spells "on".toList [.name "on"] := spells_name (by decide)
    have hbody := hon.append_blank ((spells_name h.1).append_blank (setSpells members h.2))
    rw [text, String.toList_append, String.toList_append, String.toList_append, List.append_assoc,
      List.append_assoc, tokens]
    exact spells_spread (hbody.cons ' ' rfl)

/-- The text of a set spells its braces and its members. -/
theorem setSpells : ∀ xs : List QueryNode, MembersReadable xs →
    Spells (setTextOf (memberTexts xs)).toList (.openCurly :: (memberTokens xs ++ [.closeCurly]))
  | [], _ => (spells_nil.cons '\x7d' rfl).cons '\x7b' rfl
  | x :: r, h => by
    -- only a set with members has blanks inside its braces
    have hmembers := membersSpell (x :: r) h
    rw [memberTexts] at hmembers ⊢
    rw [setTextOf, String.toList_append, String.toList_append, List.append_assoc]
    exact ((hmembers.append_blank (spells_nil.cons '\x7d' rfl)).cons ' ' rfl).cons '\x7b' rfl

theorem membersSpell : ∀ xs : List QueryNode, MembersReadable xs →
    Spells (" ".intercalate (memberTexts xs)).toList (memberTokens xs)
  | [], _ => spells_nil
  | [x], h => by
    rw [memberTexts, memberTexts, String.intercalate_singleton, memberTokens, memberTokens,
      List.append_nil]
    exact spells x h.1
  | x :: y :: r, h => by
    have hrest := membersSpell (y :: r) h.2
    rw [memberTexts, memberTexts, String.intercalate_cons_cons, String.toList_append,
      String.toList_append, List.append_assoc, memberTokens]
    exact (spells x h.1).append_blank hrest

end

end QueryNode

namespace Grammar

/-- **The text of a value** is read as the value. -/
theorem readValue_text {v : QueryValue} (h : v.Readable) : readValue v.text = some v := by
  have hscan := v.spells h [] boundary_nil
  have hvalue := value?_tokens v [] h (Nat.le_refl _)
  rw [List.append_nil] at hscan hvalue
  rw [readValue, hscan, scan_nil, Option.map_some, List.append_nil]
  dsimp only
  rw [hvalue]

/-- **The text of a set** is read as its members. -/
theorem read_setText {xs : List QueryNode} (h : QueryNode.MembersReadable xs) :
    read (Selection.setTextOf (QueryNode.memberTexts xs)) = some xs := by
  have hscan := QueryNode.setSpells xs h [] boundary_nil
  rw [List.append_nil, scan_nil, Option.map_some, List.append_nil] at hscan
  have hmembers := members?_tokens xs (r := []) h (Nat.le_refl _)
  have hlength : (QueryNode.memberTokens xs ++ [Token.closeCurly]).length =
      (QueryNode.memberTokens xs).length + 1 := by
    rw [List.length_append, List.length_singleton]
  rw [read, hscan]
  dsimp only
  rw [hlength, hmembers]

end Grammar

end FieldQuery
