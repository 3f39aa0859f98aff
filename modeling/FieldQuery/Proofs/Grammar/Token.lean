/-
**Tokens of the query language.**

A server reads a query character by character.  Blanks, commas and comments only stand between
tokens; a name and a number reach as far as they can, and a number must not run into a name.  The
scanner is a machine whose mode says in the middle of what it is, so that what it makes of a text
is fixed by its mode before the text and by the text alone.

Main definitions:

* `Grammar.isName` — a name of the query language;
* `Grammar.Token` — punctuation, names, numbers and strings;
* `Grammar.scan` — the tokens of a text; strings over several lines are not read;
* `Grammar.Boundary` — a text that does not go on with the token before it.

Main results:

* `Grammar.scan_name`, `Grammar.scan_number`, `Grammar.scan_quoted` — a name, the text of a number
  and a quoted string are each read as one token.
-/

import FieldQuery.Json.Literal
import FieldQuery.Json.Numeral
import FieldQuery.Json.Printer
import Mathlib.Data.List.Chain

set_option autoImplicit false

namespace FieldQuery.Grammar

/-! ### Characters -/

/-- A character that a name can start with. -/
def isNameStart (c : Char) : Bool := c.isAlpha || c = '_'

/-- A character that a name can go on with. -/
def isNameContinue (c : Char) : Bool := c.isAlphanum || c = '_'

/-- The text is a name. -/
def isName (s : String) : Bool :=
  match s.toList with
  | [] => false
  | c :: r => isNameStart c && r.all isNameContinue

/-- A character that only stands between tokens. -/
def isIgnored (c : Char) : Bool :=
  c = ' ' || c = '\t' || c = '\n' || c = '\r' || c = ',' || c = '\ufeff'

/-- A character that a number goes on with after another: a sign only stands behind the letter of
an exponent, and a letter or a point that is out of place is part of the number too. -/
def continuesNumber (last c : Char) : Bool :=
  isNameContinue c || c = '.' || ((c = '+' || c = '-') && (last = 'e' || last = 'E'))

/-! ### Tokens -/

/-- A token. -/
inductive Token where
  | dollar
  | colon
  | openRound
  | closeRound
  | openSquare
  | closeSquare
  | openCurly
  | closeCurly
  | spread
  /-- Punctuation that stands in no selection without directives. -/
  | mark (c : Char)
  | name (s : String)
  | number (n : Number)
  | string (s : String)
deriving DecidableEq, Repr

/-- The token that a character is by itself. -/
def punctuator? (c : Char) : Option Token :=
  if c = '$' then some .dollar
  else if c = ':' then some .colon
  else if c = '(' then some .openRound
  else if c = ')' then some .closeRound
  else if c = '[' then some .openSquare
  else if c = ']' then some .closeSquare
  else if c = '\x7b' then some .openCurly
  else if c = '\x7d' then some .closeCurly
  else if c = '!' ∨ c = '&' ∨ c = '=' ∨ c = '@' ∨ c = '|' then some (.mark c)
  else none

/-- The number that a text spells: a whole number where it has neither a fraction nor an exponent,
else the double nearest to it. -/
def numberOf? (cs : List Char) : Option Number :=
  match Json.Numeral.read? cs with
  | .ok (⟨negative, whole, none, none⟩, []) =>
    let n : Int := Json.Numeral.digitsValue whole
    (WideInt.ofInt? (if negative then -n else n)).map .whole
  | .ok (⟨negative, whole, fraction, exponent⟩, []) =>
    let places := fraction.getD []
    (Binary64.magnitudeOfDecimal (Json.Numeral.digitsValue (whole ++ places))
      (exponent.getD 0 - places.length)).map fun m => .double ⟨negative, m⟩
  | _ => none

/-! ### The scanner -/

/-- In the middle of what the scanner is. -/
inductive Mode where
  | between
  | comment
  | dots (n : Nat)
  | name (cs : List Char)
  | number (cs : List Char) (last : Char)
  /-- After the quote that opens a string and some pieces. -/
  | string (ps : List Json.Piece)
  | escape (ps : List Json.Piece)
  | unit (ps : List Json.Piece) (ds : List Char)
  /-- After two quotes with nothing between them. -/
  | quotes

namespace Mode

/-- The mode after a character between tokens, and the tokens that it completes. -/
def start (c : Char) : Option (Mode × List Token) :=
  if isIgnored c then some (between, [])
  else if c = '#' then some (comment, [])
  else if c = '.' then some (dots 1, [])
  else if c = '"' then some (string [], [])
  else if isNameStart c then some (name [c], [])
  else if c.isDigit || c = '-' then some (number [] c, [])
  else (punctuator? c).map fun t => (between, [t])

/-- The mode after a character that no longer belongs to a token. -/
def startAfter (t : Token) (c : Char) : Option (Mode × List Token) :=
  (start c).map fun x => (x.1, t :: x.2)

/-- The mode after one more character, and the tokens that it completes. -/
def step : Mode → Char → Option (Mode × List Token)
  | between, c => start c
  | comment, c => if c = '\n' ∨ c = '\r' then some (between, []) else some (comment, [])
  | dots n, c =>
    if c ≠ '.' then none else if n = 2 then some (between, [.spread]) else some (dots (n + 1), [])
  | name cs, c =>
    if isNameContinue c then some (name (cs ++ [c]), [])
    else startAfter (.name (String.ofList cs)) c
  | number cs last, c =>
    if continuesNumber last c then some (number (cs ++ [last]) c, [])
    else (numberOf? (cs ++ [last])).bind fun n => startAfter (.number n) c
  | string ps, c =>
    if c = '"' then
      if ps = [] then some (quotes, [])
      else (Json.join none ps).toOption.map fun cs => (between, [.string (String.ofList cs)])
    else if c = '\\' then some (escape ps, [])
    else if c = '\t' ∨ 0x20 ≤ c.toNat then some (string (ps ++ [.char c]), [])
    else none
  | escape ps, c =>
    if c = 'u' then some (unit ps [], [])
    else (Json.escapeChar? c).map fun x => (string (ps ++ [.char x]), [])
  | unit ps ds, c =>
    if ds.length < 3 then some (unit ps (ds ++ [c]), [])
    else (Text.natural? 16 (ds ++ [c])).map fun n => (string (ps ++ [.unit n]), [])
  | quotes, c => if c = '"' then none else startAfter (.string "") c

/-- The tokens that the end of the text completes. -/
def finish : Mode → Option (List Token)
  | between => some []
  | comment => some []
  | name cs => some [.name (String.ofList cs)]
  | number cs last => (numberOf? (cs ++ [last])).map fun n => [.number n]
  | quotes => some [.string ""]
  | _ => none

end Mode

/-- The tokens of a text that is read in a mode. -/
def scanFrom : Mode → List Char → Option (List Token)
  | m, [] => m.finish
  | m, c :: r => (m.step c).bind fun x => (scanFrom x.1 r).map (x.2 ++ ·)

/-- The tokens of a text. -/
def scan (cs : List Char) : Option (List Token) := scanFrom .between cs

/-- A character that goes on with no name, number or string that ends before it. -/
def endsToken (c : Char) : Bool :=
  !isNameContinue c && c ≠ '.' && c ≠ '"' && c ≠ '+' && c ≠ '-'

theorem endsToken_iff {c : Char} : endsToken c = true ↔
    isNameContinue c = false ∧ c ≠ '.' ∧ c ≠ '"' ∧ c ≠ '+' ∧ c ≠ '-' := by
  simp [endsToken, and_assoc]

/-- A text that does not go on with a token that ends before it. -/
def Boundary (cs : List Char) : Prop := ∀ c ∈ cs.head?, endsToken c = true

theorem boundary_nil : Boundary [] := nofun

/-! ### Characters that are tokens by themselves -/

@[simp] theorem scan_nil : scan [] = some [] := rfl

theorem scanFrom_cons (m : Mode) (c : Char) (r : List Char) :
    scanFrom m (c :: r) = (m.step c).bind fun x => (scanFrom x.1 r).map (x.2 ++ ·) := rfl

/-- A character that leaves nothing open gives its tokens, and the text goes on behind it. -/
theorem scan_cons {c : Char} {ts : List Token} (h : Mode.start c = some (.between, ts))
    (r : List Char) : scan (c :: r) = (scan r).map (ts ++ ·) := by
  rw [scan, scanFrom_cons, Mode.step, h]
  rfl

@[simp] theorem scan_blank (r : List Char) : scan (' ' :: r) = scan r := by
  rw [scan_cons rfl]
  exact Option.map_id'

@[simp] theorem scan_comma (r : List Char) : scan (',' :: r) = scan r := by
  rw [scan_cons rfl]
  exact Option.map_id'

@[simp] theorem scan_spread (r : List Char) :
    scan ('.' :: '.' :: '.' :: r) = (scan r).map (.spread :: ·) := by
  have hdots : ∀ cs, scanFrom (.dots 2) ('.' :: cs) = (scan cs).map (.spread :: ·) := by
    intro cs
    rw [scanFrom_cons]
    rfl
  rw [scan, scanFrom_cons]
  change Option.map _ (scanFrom (.dots 1) ('.' :: '.' :: r)) = _
  rw [scanFrom_cons]
  change Option.map _ (Option.map _ (scanFrom (.dots 2) ('.' :: r))) = _
  rw [hdots]
  cases scan r <;> rfl

/-! ### Names and numbers -/

/-- A token that is complete at the end of the text, and before every character that comes next,
is read in front of what comes next. -/
theorem scanFrom_complete {m : Mode} {t : Token} {r : List Char} (hend : m.finish = some [t])
    (hnext : ∀ c ∈ r.head?, m.step c = Mode.startAfter t c) :
    scanFrom m r = (scan r).map (t :: ·) := by
  cases r with
  | nil =>
    rw [scanFrom, hend]
    rfl
  | cons c r =>
    rw [scanFrom_cons, hnext c rfl, Mode.startAfter, scan, scanFrom_cons, Mode.step]
    cases Mode.start c with
    | none => rfl
    | some x =>
      change Option.map _ _ = Option.map _ (Option.map _ _)
      cases scanFrom x.1 r <;> rfl

theorem scanFrom_name {cs r : List Char} (hr : Boundary r) :
    scanFrom (.name cs) r = (scan r).map (.name (String.ofList cs) :: ·) := by
  refine scanFrom_complete rfl fun c hc => ?_
  rw [Mode.step, (endsToken_iff.1 (hr c hc)).1]
  rfl

theorem scanFrom_name_append (done cs : List Char) {r : List Char}
    (hcs : ∀ c ∈ cs, isNameContinue c = true) :
    scanFrom (.name done) (cs ++ r) = scanFrom (.name (done ++ cs)) r := by
  induction cs generalizing done with
  | nil => rw [List.nil_append, List.append_nil]
  | cons c cs ih =>
    rw [List.forall_mem_cons] at hcs
    rw [List.cons_append, scanFrom_cons, Mode.step, hcs.1, if_pos rfl]
    change Option.map _ (scanFrom (.name (done ++ [c])) (cs ++ r)) = _
    rw [ih _ hcs.2, List.append_assoc]
    exact Option.map_id'

/-- A character that a name can start with is nothing else. -/
theorem start_of_isNameStart {c : Char} (h : isNameStart c = true) :
    Mode.start c = some (.name [c], []) := by
  have hne : ∀ x, isNameStart x = false → c ≠ x := by
    intro x hx hc
    rw [← hc, h] at hx
    cases hx
  have hignored : isIgnored c = false := by
    simp only [isIgnored, Bool.or_eq_false_iff, decide_eq_false_iff_not]
    refine ⟨⟨⟨⟨⟨?_, ?_⟩, ?_⟩, ?_⟩, ?_⟩, ?_⟩ <;> exact hne _ (by decide)
  rw [Mode.start, hignored, if_neg Bool.false_ne_true, if_neg (hne _ (by decide)),
    if_neg (hne _ (by decide)), if_neg (hne _ (by decide)), h]
  rfl

/-- **A name** is read as one token. -/
theorem scan_name {s : String} (h : isName s = true) {r : List Char} (hr : Boundary r) :
    scan (s.toList ++ r) = (scan r).map (.name s :: ·) := by
  unfold isName at h
  cases hs : s.toList with
  | nil =>
    rw [hs] at h
    cases h
  | cons c cs =>
    rw [hs, Bool.and_eq_true] at h
    have hcs : ∀ x ∈ cs, isNameContinue x = true := List.all_eq_true.1 h.2
    rw [List.cons_append, scan, scanFrom_cons, Mode.step, start_of_isNameStart h.1]
    change Option.map _ (scanFrom (.name [c]) (cs ++ r)) = _
    rw [scanFrom_name_append _ _ hcs, scanFrom_name hr, List.singleton_append, ← hs,
      String.ofList_toList]
    exact Option.map_id'

theorem isNameStart_of_isDigit {c : Char} (h : c.isDigit = true) : isNameStart c = false := by
  simp only [Char.isDigit, Bool.and_eq_true, decide_eq_true_eq, ge_iff_le] at h
  have hle : c.val.toNat ≤ 57 := UInt32.le_iff_toNat_le.1 h.2
  -- the digits come before all letters and the underscore
  have hupper : c.isUpper = false := by
    refine decide_eq_false fun h' => ?_
    exact absurd (Nat.le_trans (UInt32.le_iff_toNat_le.1 h'.1) hle) (by decide)
  have hlower : c.isLower = false := by
    have ha : ¬ 'a'.val ≤ c.val := fun h' =>
      absurd (Nat.le_trans (UInt32.le_iff_toNat_le.1 h') hle) (by decide)
    exact Bool.and_eq_false_iff.2 (.inl (decide_eq_false ha))
  have halpha : c.isAlpha = false := Bool.or_eq_false_iff.2 ⟨hupper, hlower⟩
  have hline : c ≠ '_' := by
    rintro rfl
    exact absurd hle (by decide)
  simp [isNameStart, halpha, hline]

/-- A digit or a minus sign starts a number. -/
theorem start_of_isDigit {c : Char} (h : (c.isDigit || c = '-') = true) :
    Mode.start c = some (.number [] c, []) := by
  rw [Bool.or_eq_true, decide_eq_true_eq] at h
  rcases h with h | rfl
  · have hne : ∀ x, x.isDigit = false → c ≠ x := by
      intro x hx hc
      rw [← hc, h] at hx
      cases hx
    have hignored : isIgnored c = false := by
      simp only [isIgnored, Bool.or_eq_false_iff, decide_eq_false_iff_not]
      refine ⟨⟨⟨⟨⟨?_, ?_⟩, ?_⟩, ?_⟩, ?_⟩, ?_⟩ <;> exact hne _ (by decide)
    rw [Mode.start, hignored, if_neg Bool.false_ne_true, if_neg (hne _ (by decide)),
      if_neg (hne _ (by decide)), if_neg (hne _ (by decide)), isNameStart_of_isDigit h,
      if_neg Bool.false_ne_true, h]
    rfl
  · rfl

theorem scanFrom_number {done cs r : List Char} {last : Char} {n : Number}
    (hchain : List.IsChain (fun a b => continuesNumber a b = true) (last :: cs))
    (hn : numberOf? (done ++ last :: cs) = some n) (hr : Boundary r) :
    scanFrom (.number done last) (cs ++ r) = (scan r).map (.number n :: ·) := by
  -- the number is only looked at as a whole, so `done` grows until the chain ends
  induction cs generalizing done last with
  | nil =>
    refine scanFrom_complete ?_ fun c hc => ?_
    · rw [Mode.finish, hn]
      rfl
    · obtain ⟨hcontinue, hpoint, -, hplus, hminus⟩ := endsToken_iff.1 (hr c hc)
      have hends : continuesNumber last c = false := by
        simp [continuesNumber, hcontinue, hpoint, hplus, hminus]
      rw [Mode.step, hends, if_neg Bool.false_ne_true, hn]
      rfl
  | cons c cs ih =>
    rw [List.isChain_cons_cons] at hchain
    rw [List.cons_append, scanFrom_cons, Mode.step, hchain.1, if_pos rfl]
    change Option.map _ (scanFrom (.number (done ++ [last]) c) (cs ++ r)) = _
    rw [ih hchain.2 (by rw [List.append_assoc]; exact hn)]
    exact Option.map_id'

/-- **A numeral** is read as one token. -/
theorem scan_number {c : Char} {cs r : List Char} {n : Number}
    (hstart : (c.isDigit || c = '-') = true)
    (hchain : List.IsChain (fun a b => continuesNumber a b = true) (c :: cs))
    (hn : numberOf? (c :: cs) = some n) (hr : Boundary r) :
    scan (c :: cs ++ r) = (scan r).map (.number n :: ·) := by
  rw [List.cons_append, scan, scanFrom_cons, Mode.step, start_of_isDigit hstart]
  change Option.map _ (scanFrom (.number [] c) (cs ++ r)) = _
  rw [scanFrom_number hchain hn hr]
  exact Option.map_id'

/-! ### Strings -/

/-- The piece that a character of a quoted string is read as. -/
def pieceOf (c : Char) : Json.Piece :=
  if c.toNat < 0x20 ∧ c ∉ ['\x08', '\x0c', '\n', '\r', '\t'] then .unit c.toNat else .char c

/-- The pieces of a quoted string make its text. -/
theorem join_map_pieceOf (cs : List Char) : Json.join none (cs.map pieceOf) = .ok cs := by
  induction cs with
  | nil => rfl
  | cons c r ih =>
    rw [List.map_cons, pieceOf]
    split
    · rename_i h
      have hlead : Json.isLead c.toNat = false := by
        have hlt := h.1
        simp only [Json.isLead, Bool.and_eq_false_iff, decide_eq_false_iff_not]
        omega
      have htrail : Json.isTrail c.toNat = false := by
        have hlt := h.1
        simp only [Json.isTrail, Bool.and_eq_false_iff, decide_eq_false_iff_not]
        omega
      rw [Json.join.eq_def]
      simp only [htrail, hlead, Bool.false_eq_true, if_false, ih, Char.ofNat_toNat]
      rfl
    · rw [Json.join, ih]
      rfl

theorem natural?_control : ∀ n < 0x20, Text.natural? 16
    ['0', '0', Text.lowerHexDigit (n / 16), Text.lowerHexDigit (n % 16)] = some n := by
  decide

theorem scanFrom_string_cons {ps : List Json.Piece} {c : Char} {r : List Char} {m : Mode}
    (h : Mode.step (.string ps) c = some (m, [])) :
    scanFrom (.string ps) (c :: r) = scanFrom m r := by
  rw [scanFrom_cons, h]
  exact Option.map_id'

theorem scanFrom_escape {ps : List Json.Piece} {c x : Char} (r : List Char) (hu : c ≠ 'u')
    (h : Json.escapeChar? c = some x) :
    scanFrom (.string ps) ('\\' :: c :: r) = scanFrom (.string (ps ++ [.char x])) r := by
  rw [scanFrom_string_cons rfl, scanFrom_cons, Mode.step, if_neg hu, h]
  exact Option.map_id'

theorem scanFrom_unit_cons {ps : List Json.Piece} {ds : List Char} (h : ds.length < 3) (c : Char)
    (r : List Char) : scanFrom (.unit ps ds) (c :: r) = scanFrom (.unit ps (ds ++ [c])) r := by
  rw [scanFrom_cons, Mode.step, if_pos h]
  exact Option.map_id'

/-- A control character is read from its four digits. -/
theorem scanFrom_control (ps : List Json.Piece) {n : Nat} (hn : n < 0x20) (r : List Char) :
    scanFrom (.string ps)
        ('\\' :: 'u' :: '0' :: '0' :: Text.lowerHexDigit (n / 16) :: Text.lowerHexDigit (n % 16) ::
          r) =
      scanFrom (.string (ps ++ [.unit n])) r := by
  rw [scanFrom_string_cons rfl, scanFrom_cons]
  change Option.map _ (scanFrom (.unit ps []) _) = _
  -- three digits are kept, and the fourth ends the escape
  rw [scanFrom_unit_cons (by decide), scanFrom_unit_cons (by decide), scanFrom_unit_cons (by decide),
    scanFrom_cons, Mode.step, if_neg (by simp)]
  change Option.map _ (Option.bind (Option.map _ (Text.natural? 16
    ['0', '0', Text.lowerHexDigit (n / 16), Text.lowerHexDigit (n % 16)])) _) = _
  rw [natural?_control n hn]
  change Option.map _ (Option.map _ _) = _
  cases scanFrom (.string (ps ++ [.unit n])) r <;> rfl

/-- A character of a quoted string is read as its piece. -/
theorem scanFrom_escapedChar (ps : List Json.Piece) (c : Char) (r : List Char) :
    scanFrom (.string ps) (Json.escapedChar c ++ r) = scanFrom (.string (ps ++ [pieceOf c])) r := by
  unfold Json.escapedChar
  -- the quote, the backslash and five control characters have escapes of their own
  split
  · subst c; exact scanFrom_escape r (by decide) rfl
  split
  · subst c; exact scanFrom_escape r (by decide) rfl
  split
  · subst c; exact scanFrom_escape r (by decide) rfl
  split
  · subst c; exact scanFrom_escape r (by decide) rfl
  split
  · subst c; exact scanFrom_escape r (by decide) rfl
  split
  · subst c; exact scanFrom_escape r (by decide) rfl
  split
  · subst c; exact scanFrom_escape r (by decide) rfl
  rename_i hquote hback h₁ h₂ h₃ h₄ h₅
  split
  · rename_i hlt
    have hpiece : pieceOf c = .unit c.toNat := by
      rw [pieceOf, if_pos ⟨hlt, by simp [h₁, h₂, h₃, h₄, h₅]⟩]
    rw [hpiece]
    exact scanFrom_control ps hlt r
  · rename_i hge
    have hpiece : pieceOf c = .char c := by
      rw [pieceOf, if_neg fun h => hge h.1]
    rw [hpiece]
    -- it is no control character, so it may stand in a string as it is
    refine scanFrom_string_cons ?_
    rw [Mode.step, if_neg hquote, if_neg hback, if_pos (.inr (by omega))]

theorem scanFrom_escapedChars (ps : List Json.Piece) (cs r : List Char) :
    scanFrom (.string ps) (cs.flatMap Json.escapedChar ++ r) =
      scanFrom (.string (ps ++ cs.map pieceOf)) r := by
  induction cs generalizing ps with
  | nil => rw [List.flatMap_nil, List.nil_append, List.map_nil, List.append_nil]
  | cons c cs ih =>
    rw [List.flatMap_cons, List.append_assoc, scanFrom_escapedChar, ih, List.append_assoc,
      List.map_cons, List.singleton_append]

/-- **A quoted string** is read as one token.  Three quotes in a row would be read otherwise. -/
theorem scan_quoted (s : String) {r : List Char} (hr : Boundary r) :
    scan (Json.quotedChars s.toList ++ r) = (scan r).map (.string s :: ·) := by
  rw [Json.quotedChars, List.cons_append, List.cons_append, List.append_assoc, scan, scanFrom_cons]
  change Option.map _ (scanFrom (.string []) (s.toList.flatMap Json.escapedChar ++ '"' :: r)) = _
  rw [scanFrom_escapedChars, List.nil_append, scanFrom_cons, Mode.step, if_pos rfl]
  by_cases hs : s.toList.map pieceOf = []
  · -- behind two quotes the scanner waits for the character that comes next
    obtain rfl : s = "" := by
      rw [List.map_eq_nil_iff] at hs
      exact String.toList_eq_nil_iff.1 hs
    have hquotes : scanFrom .quotes r = (scan r).map (.string "" :: ·) := by
      refine scanFrom_complete rfl fun c hc => ?_
      rw [Mode.step, if_neg (endsToken_iff.1 (hr c hc)).2.2.1]
    rw [if_pos hs]
    change Option.map _ (Option.map _ (scanFrom .quotes r)) = _
    rw [hquotes]
    cases scan r <;> rfl
  · rw [if_neg hs, join_map_pieceOf]
    change Option.map _ (Option.map (.string (String.ofList s.toList) :: ·) (scan r)) = _
    rw [String.ofList_toList]
    cases scan r <;> rfl

end FieldQuery.Grammar
