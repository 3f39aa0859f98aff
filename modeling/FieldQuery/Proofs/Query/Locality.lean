/-
**The text of arguments and its place.**

The arguments of a call are written while the query around them is being written: aliases and the
arguments of other fields are in the text already, variables have been declared, and more of both
is to come.  None of that matters to what is written between the parentheses.  It is settled by the
arguments, by the field that is called, and by the fields around it, as the schema names them.

To say so, a call is told from all that surrounds it.  A *site* is a selection from which the
arguments of one call were taken out.  Compiling a selection meets the demands before the call,
writes the arguments, and meets the demands after it; the text of the arguments comes between two
texts that are those of the site.

Main definitions:

* `Selection.Site`, `SelectionSet.Site` — all of a selection but the arguments of one call;
* `SelectionSet.Site.called`, `SelectionSet.Site.enclosing` — the field called, and the names of the
  fields around it;
* `Selection.Site.reach`, `SelectionSet.Site.emitted` — writing a selection up to the call and its
  arguments, and the text of these;
* `SelectionSet.Site.queryBefore`, `SelectionSet.Site.queryAfter` — what comes before the arguments
  in a query, and after them.

Main results:

* `SelectionSet.exists_site_of_mem_calls` — every call has a site;
* `Selection.Site.position_eq` — where arguments stand by the schema;
* `Selection.Site.result_text_fill` — writing a selection begins with writing up to the call;
* `SelectionSet.Site.compile_fill` — a query is what comes before the arguments, these in
  parentheses, and what comes after them;
* `SelectionSet.Site.emitted_locally` — **arguments are written by their place alone**, and other
  arguments change nothing outside their parentheses.
-/

import FieldQuery.Proofs.Query.Encoding
import FieldQuery.Proofs.Schema.Walk

set_option autoImplicit false

namespace FieldQuery

/-! ### Sites -/

/-- All of what is fetched of a field but the arguments of one call: the call itself, a call with
another one in its body, or a set with one in a member. -/
inductive Selection.Site where
  | here (body : Selection)
  | inBody (arguments : Json) (site : Selection.Site)
  | inMember (before : List (MemberKey × Selection)) (key : MemberKey) (site : Selection.Site)
      (after : List (MemberKey × Selection)) (directives : Option String)

/-- All of a selection but the arguments of one call. -/
structure SelectionSet.Site where
  before : List (MemberKey × Selection)
  key : MemberKey
  site : Selection.Site
  after : List (MemberKey × Selection)
  directives : Option String

namespace Selection

/-- The text of arguments in parentheses; where there is none there are no parentheses. -/
def parenthesised (arguments : String) : String := keyWithArguments "" arguments

theorem keyWithArguments_eq (key arguments : String) :
    keyWithArguments key arguments = key ++ parenthesised arguments := by
  unfold parenthesised keyWithArguments
  split
  · rw [String.append_empty]
  · simp only [String.empty_append, String.append_assoc]

/-- What comes before the text of a member in the text of a set. -/
def setTextBefore (before : List String) : String :=
  "\x7b " ++ String.join (before.map fun t => t ++ " ")

/-- What comes after the text of a member in the text of a set. -/
def setTextAfter (after : List String) : String :=
  String.join (after.map fun t => " " ++ t) ++ " \x7d"

/-- Texts with blanks between them, around one of them. -/
theorem intercalate_append_cons (before : List String) (t : String) (after : List String) :
    " ".intercalate (before ++ t :: after) =
      String.join (before.map fun u => u ++ " ") ++ t ++
        String.join (after.map fun u => " " ++ u) := by
  induction before with
  | nil =>
    rw [List.nil_append, List.map_nil, String.join_nil, String.empty_append]
    induction after generalizing t with
    | nil => rw [String.intercalate_singleton, List.map_nil, String.join_nil, String.append_empty]
    | cons u rest ih =>
      rw [String.intercalate_cons_cons, ih, List.map_cons, String.join_cons]
      simp only [String.append_assoc]
  | cons u rest ih =>
    obtain ⟨w, more, hmore⟩ : ∃ w more, rest ++ t :: after = w :: more := by
      cases rest <;> simp
    rw [List.cons_append, hmore, String.intercalate_cons_cons, ← hmore, ih, List.map_cons,
      String.join_cons]
    simp only [String.append_assoc]

/-- A member stands between the members before and the members after. -/
theorem setTextOf_append_cons (before : List String) (t : String) (after : List String) :
    setTextOf (before ++ t :: after) = setTextBefore before ++ t ++ setTextAfter after := by
  obtain ⟨w, more, hmore⟩ : ∃ w more, before ++ t :: after = w :: more := by
    cases before <;> simp
  rw [hmore, setTextOf, ← hmore, intercalate_append_cons, setTextBefore, setTextAfter]
  simp only [String.append_assoc]

variable {schema : Schema} {coders : Coders}

theorem memberDemands_append (path : SchemaPath) (ms ns : List (MemberKey × Selection)) :
    memberDemands schema coders path (ms ++ ns) =
      memberDemands schema coders path ms ++ memberDemands schema coders path ns := by
  induction ms with
  | nil => rfl
  | cons m rest ih =>
    rw [List.cons_append, memberDemands, memberDemands, ih, List.append_assoc]

theorem memberWritten_append (path : SchemaPath) (ms ns : List (MemberKey × Selection)) :
    memberWritten schema coders path (ms ++ ns) =
      memberWritten schema coders path ms ++ memberWritten schema coders path ns := by
  induction ms with
  | nil => rfl
  | cons m rest ih => rw [List.cons_append, memberWritten, memberWritten, ih, List.cons_append]

/-- The text of a member is its key, and what would follow any key. -/
theorem written_eq_append (path : SchemaPath) (field : String) (s : Selection) (key : String) :
    written schema coders path key field s = key ++ written schema coders path "" field s := by
  cases s with
  | leaf => rw [written, written, String.append_empty]
  | raw t => simp only [written, String.empty_append, String.append_assoc]
  | object members directives => simp only [written, String.empty_append, String.append_assoc]
  | call arguments body =>
    rw [written, written_eq_append path field body, written,
      written_eq_append path field body (keyWithArguments "" _), keyWithArguments_eq,
      keyWithArguments_eq "", String.empty_append, String.append_assoc]

/-- The name of a field as the schema knows it, if its members are a level further down: a fragment
in place is no level. -/
def levelOf (field : String) : List String :=
  if Key.isInlineFragment field then [] else [Key.purify field]

theorem positionBelow_eq (path : SchemaPath) (field : String) :
    positionBelow path field = path ++ SchemaPath.fields (levelOf field) := by
  unfold positionBelow levelOf
  split
  · simp
  · rfl

namespace Site

/-- The selection with arguments for the call. -/
def fill (arguments : Json) : Site → Selection
  | here body => .call arguments body
  | inBody others site => .call others (site.fill arguments)
  | inMember before key site after directives =>
    .object (before ++ (key, site.fill arguments) :: after) directives

/-- The field that is called. -/
def called (field : String) : Site → String
  | here _ => field
  | inBody _ site => site.called field
  | inMember _ key site _ _ => site.called key.field

/-- The names of the fields around the call, as the schema knows them. -/
def enclosing (field : String) : Site → List String
  | here _ => []
  | inBody _ site => site.enclosing field
  | inMember _ key site _ _ => levelOf field ++ site.enclosing key.field

/-- The position of the arguments of the call, as it comes up in writing. -/
def position (path : SchemaPath) (field : String) : Site → SchemaPath
  | here _ => path.argument field
  | inBody _ site => site.position path field
  | inMember _ key site _ _ => site.position (positionBelow path field) key.field

/-- **Where arguments stand by the schema**: behind the fields around the call and the field that is
called, without aliases, arguments and fragments. -/
theorem position_eq (path : SchemaPath) (field : String) (site : Site) :
    site.position path field =
      path ++ SchemaPath.fields (site.enclosing field) ++
        SchemaPath.arguments [Key.purify (site.called field)] := by
  induction site generalizing path field with
  | here _ => simp [position, enclosing, called, SchemaPath.argument]
  | inBody _ site ih => exact ih path field
  | inMember _ key site _ _ ih =>
    rw [position, enclosing, called, ih, positionBelow_eq]
    simp [SchemaPath.fields]

/-! ### Writing up to a call -/

variable (schema : Schema) (coders : Coders)

/-- Writing a member up to the call and its arguments; the result is the text of these. -/
def reach (path : SchemaPath) (field : String) (arguments : Json) : Site → Compilation String
  | here _ => Argument.listText schema coders (path.argument field) arguments
  | inBody others site => do
    let _ ← Argument.listText schema coders (path.argument field) others
    site.reach path field arguments
  | inMember before key site _ _ => do
    let _ ← memberTexts schema coders (positionBelow path field) before
    site.reach (positionBelow path field) key.field arguments

/-- The demands that are met before those of the arguments. -/
def demandsBefore (path : SchemaPath) (field : String) : Site → List Demand
  | here _ => []
  | inBody others site =>
    Argument.demands schema coders (path.argument field) others ++ site.demandsBefore path field
  | inMember before key site _ _ =>
    memberDemands schema coders (positionBelow path field) before ++
      site.demandsBefore (positionBelow path field) key.field

/-- The demands that are met after those of the arguments. -/
def demandsAfter (path : SchemaPath) (field : String) : Site → List Demand
  | here body => demands schema coders path field body
  | inBody _ site => site.demandsAfter path field
  | inMember _ key site after _ =>
    site.demandsAfter (positionBelow path field) key.field ++
      memberDemands schema coders (positionBelow path field) after

/-- What comes before the arguments in the text of a member: the keys on the way, and the members
before. -/
def textBefore (path : SchemaPath) (key field : String) : Site → String
  | here _ => key
  | inBody others site =>
    site.textBefore path (keyWithArguments key (callText schema coders path field others)) field
  | inMember before k site _ directives =>
    key ++ directivesText directives ++ " " ++
      setTextBefore (memberWritten schema coders (positionBelow path field) before) ++
      site.textBefore (positionBelow path field) k.written k.field

/-- What comes after the arguments in the text of a member: the body of the call, and the members
after. -/
def textAfter (path : SchemaPath) (field : String) : Site → String
  | here body => written schema coders path "" field body
  | inBody _ site => site.textAfter path field
  | inMember _ key site after _ =>
    site.textAfter (positionBelow path field) key.field ++
      setTextAfter (memberWritten schema coders (positionBelow path field) after)

variable {schema coders}

/-- The demands of a selection are those before the arguments, those of the arguments, and those
after them. -/
theorem demands_fill (path : SchemaPath) (field : String) (arguments : Json) (site : Site) :
    demands schema coders path field (site.fill arguments) =
      site.demandsBefore schema coders path field ++
        Argument.demands schema coders (site.position path field) arguments ++
        site.demandsAfter schema coders path field := by
  induction site generalizing path field with
  | here body => simp [fill, demands, demandsBefore, position, demandsAfter]
  | inBody others site ih =>
    rw [fill, demands, ih, demandsBefore, position, demandsAfter]
    simp only [List.append_assoc]
  | inMember before key site after directives ih =>
    rw [fill, demands, memberDemands_append, memberDemands, ih, demandsBefore, position,
      demandsAfter]
    simp only [List.append_assoc]

/-- The text of a selection is that before the arguments, the arguments in parentheses, and that
after them. -/
theorem written_fill (path : SchemaPath) (key field : String) (arguments : Json) (site : Site) :
    written schema coders path key field (site.fill arguments) =
      site.textBefore schema coders path key field ++
        parenthesised
          (Argument.value schema coders (site.position path field) arguments).argumentsText ++
        site.textAfter schema coders path field := by
  induction site generalizing path key field with
  | here body =>
    rw [fill, written, written_eq_append, keyWithArguments_eq]
    rfl
  | inBody others site ih => exact ih path _ field
  | inMember before k site after directives ih =>
    rw [fill, written, memberWritten_append, memberWritten, setTextOf_append_cons, ih, textBefore,
      position, textAfter]
    simp only [String.append_assoc]

/-- Writing up to a call meets the demands on the way and those of the arguments, and gives the text
of these. -/
theorem result_reach (path : SchemaPath) (field : String) (arguments : Json) (site : Site)
    (t : VariableTable) :
    (site.reach schema coders path field arguments).result t =
      (Demand.replay coders (site.demandsBefore schema coders path field ++
        Argument.demands schema coders (site.position path field) arguments) t).map fun t' =>
          ((Argument.value schema coders (site.position path field) arguments).argumentsText,
            t') := by
  induction site generalizing path field t with
  | here body => exact Argument.result_listText _ arguments t
  | inBody others site ih =>
    rw [reach, Compilation.result_bind, Argument.result_listText, demandsBefore, List.append_assoc,
      Demand.replay_append]
    cases Demand.replay coders
        (Argument.demands schema coders (path.argument field) others) t with
    | error e => rfl
    | ok t₁ => exact ih path field t₁
  | inMember before key site after directives ih =>
    rw [reach, Compilation.result_bind, result_memberTexts, demandsBefore, List.append_assoc,
      Demand.replay_append]
    cases Demand.replay coders
        (memberDemands schema coders (positionBelow path field) before) t with
    | error e => rfl
    | ok t₁ => exact ih (positionBelow path field) key.field t₁

/-- **Writing a selection begins with writing up to the call.**  What is left to do then is to meet
the demands after it, and the text of the arguments comes in parentheses between two texts that have
nothing to do with it. -/
theorem result_text_fill (path : SchemaPath) (key field : String) (arguments : Json) (site : Site)
    (t : VariableTable) :
    (text schema coders path key field (site.fill arguments)).result t =
      ((site.reach schema coders path field arguments).result t).bind fun r =>
        (Demand.replay coders (site.demandsAfter schema coders path field) r.2).map fun t' =>
          (site.textBefore schema coders path key field ++ parenthesised r.1 ++
            site.textAfter schema coders path field, t') := by
  rw [result_text, demands_fill, written_fill, Demand.replay_append, result_reach]
  cases Demand.replay coders (site.demandsBefore schema coders path field ++
    Argument.demands schema coders (site.position path field) arguments) t <;> rfl

end Site

/-! ### Every call has a site -/

mutual

/-- Every call in a selection has a site. -/
theorem exists_site_of_mem_calls {path : SchemaPath} {field : String} {c : SchemaPath × Json} :
    ∀ s : Selection, c ∈ calls path field s →
      ∃ site : Site, site.fill c.2 = s ∧ site.position path field = c.1
  | .leaf, h => by simp [calls] at h
  | .raw _, h => by simp [calls] at h
  | .object members directives, h => by
    rw [calls] at h
    obtain ⟨before, key, site, after, rfl, hposition⟩ := exists_site_of_mem_memberCalls members h
    exact ⟨.inMember before key site after directives, rfl, hposition⟩
  | .call arguments body, h => by
    rw [calls] at h
    rcases List.mem_cons.1 h with rfl | h
    · exact ⟨.here body, rfl, rfl⟩
    · obtain ⟨site, rfl, hposition⟩ := exists_site_of_mem_calls body h
      exact ⟨.inBody arguments site, rfl, hposition⟩

theorem exists_site_of_mem_memberCalls {path : SchemaPath} {c : SchemaPath × Json} :
    ∀ ms : List (MemberKey × Selection), c ∈ memberCalls path ms →
      ∃ (before : List (MemberKey × Selection)) (key : MemberKey) (site : Site)
        (after : List (MemberKey × Selection)),
        before ++ (key, site.fill c.2) :: after = ms ∧ site.position path key.field = c.1
  | [], h => by simp [memberCalls] at h
  | (key, s) :: rest, h => by
    rw [memberCalls] at h
    rcases List.mem_append.1 h with h | h
    · obtain ⟨site, rfl, hposition⟩ := exists_site_of_mem_calls s h
      exact ⟨[], key, site, rest, rfl, hposition⟩
    · obtain ⟨before, k, site, after, rfl, hposition⟩ := exists_site_of_mem_memberCalls rest h
      exact ⟨(key, s) :: before, k, site, after, rfl, hposition⟩

end

end Selection

namespace SelectionSet

variable {schema : Schema} {coders : Coders} {operation : String}

namespace Site

/-! ### Sites in queries -/

/-- The selection with arguments for the call. -/
def fill (arguments : Json) (s : Site) : SelectionSet :=
  ⟨s.before ++ (s.key, s.site.fill arguments) :: s.after, s.directives⟩

/-- The field that is called. -/
def called (s : Site) : String := s.site.called s.key.field

/-- The names of the fields around the call, as the schema knows them. -/
def enclosing (s : Site) : List String := s.site.enclosing s.key.field

/-- The position of the arguments of the call. -/
def position (operation : String) (s : Site) : SchemaPath :=
  s.site.position (SchemaPath.field [] operation) s.key.field

variable (schema coders operation)

/-- Writing a selection up to the call and its arguments; the result is the text of these. -/
def reach (arguments : Json) (s : Site) : Compilation String := do
  let _ ← Selection.memberTexts schema coders (SchemaPath.field [] operation) s.before
  s.site.reach schema coders (SchemaPath.field [] operation) s.key.field arguments

/-- The text that is written for the arguments of the call when the selection is compiled. -/
def emitted (arguments : Json) (s : Site) : Except QueryError String :=
  ((s.reach schema coders operation arguments).result Dictionary.empty).map Prod.fst

/-- The demands that are met after those of the arguments. -/
def demandsAfter (s : Site) : List Demand :=
  s.site.demandsAfter schema coders (SchemaPath.field [] operation) s.key.field ++
    Selection.memberDemands schema coders (SchemaPath.field [] operation) s.after

/-- What comes before the arguments in a query with declarations. -/
def queryBefore (operationName : Option String) (declared : VariableTable) (s : Site) : String :=
  head operation operationName declared s.directives ++ " " ++
    Selection.setTextBefore
      (Selection.memberWritten schema coders (SchemaPath.field [] operation) s.before) ++
    s.site.textBefore schema coders (SchemaPath.field [] operation) s.key.written s.key.field

/-- What comes after the arguments in a query. -/
def queryAfter (s : Site) : String :=
  s.site.textAfter schema coders (SchemaPath.field [] operation) s.key.field ++
    Selection.setTextAfter
      (Selection.memberWritten schema coders (SchemaPath.field [] operation) s.after)

variable {schema coders operation}

/-- Writing up to a call gives the text of its arguments, which is the same whatever variables were
declared before. -/
theorem result_reach (arguments : Json) (s : Site) (t : VariableTable) :
    (s.reach schema coders operation arguments).result t =
      (Demand.replay coders
        (Selection.memberDemands schema coders (SchemaPath.field [] operation) s.before ++
          (s.site.demandsBefore schema coders (SchemaPath.field [] operation) s.key.field ++
            Argument.demands schema coders (s.position operation) arguments)) t).map fun t' =>
        ((Argument.value schema coders (s.position operation) arguments).argumentsText, t') := by
  rw [reach, Compilation.result_bind, Selection.result_memberTexts, Demand.replay_append]
  cases Demand.replay coders
      (Selection.memberDemands schema coders (SchemaPath.field [] operation) s.before) t with
  | error e => rfl
  | ok t₁ => exact Selection.Site.result_reach _ _ arguments s.site t₁

/-- **Compiling a selection** is writing it up to the call, meeting the demands after it, and
putting the arguments in parentheses between what comes before them and what comes after. -/
theorem compile_fill (operationName : Option String) (arguments : Json) (s : Site) :
    (s.fill arguments).compile schema coders operationName operation =
      ((s.reach schema coders operation arguments).result Dictionary.empty).bind fun r =>
        (Demand.replay coders (s.demandsAfter schema coders operation) r.2).map fun declared =>
          ⟨s.queryBefore schema coders operation operationName declared ++
            Selection.parenthesised r.1 ++ s.queryAfter schema coders operation, declared⟩ := by
  have hdemands : (s.fill arguments).demands schema coders operation =
      Selection.memberDemands schema coders (SchemaPath.field [] operation) s.before ++
        (s.site.demandsBefore schema coders (SchemaPath.field [] operation) s.key.field ++
          Argument.demands schema coders (s.position operation) arguments) ++
        s.demandsAfter schema coders operation := by
    rw [SelectionSet.demands, fill, Selection.memberDemands_append, Selection.memberDemands,
      Selection.Site.demands_fill, demandsAfter]
    simp only [List.append_assoc]
    rfl
  have hwritten : (s.fill arguments).written schema coders operation =
      Selection.setTextBefore
          (Selection.memberWritten schema coders (SchemaPath.field [] operation) s.before) ++
        s.site.textBefore schema coders (SchemaPath.field [] operation) s.key.written s.key.field ++
        Selection.parenthesised
          (Argument.value schema coders (s.position operation) arguments).argumentsText ++
        s.queryAfter schema coders operation := by
    rw [SelectionSet.written, fill, Selection.memberWritten_append, Selection.memberWritten,
      Selection.setTextOf_append_cons, Selection.Site.written_fill, queryAfter]
    simp only [String.append_assoc]
    rfl
  rw [SelectionSet.compile_eq, hdemands, Demand.replay_append, result_reach, hwritten]
  generalize Demand.replay coders _ Dictionary.empty = r
  cases r with
  | error e => rfl
  | ok t =>
    simp only [Except.map, Except.bind, queryBefore, String.append_assoc]
    rfl

/-! ### Arguments and their place -/

/-- The position of arguments is fixed by the field that is called and the fields around it. -/
theorem position_eq (s : Site) :
    s.position operation =
      SchemaPath.fields (Key.purify operation :: s.enclosing) ++
        SchemaPath.arguments [Key.purify s.called] := by
  rw [position, Selection.Site.position_eq]
  rfl

/-- A query that could be written is what comes before the arguments, these, and what comes after
them. -/
theorem text_of_compile_fill {operationName : Option String} {arguments : Json} {s : Site}
    {q : CompiledQuery}
    (h : (s.fill arguments).compile schema coders operationName operation = .ok q) :
    s.emitted schema coders operation arguments =
        .ok (Argument.value schema coders (s.position operation) arguments).argumentsText ∧
      q.text = s.queryBefore schema coders operation operationName q.declared ++
        Selection.parenthesised
          (Argument.value schema coders (s.position operation) arguments).argumentsText ++
        s.queryAfter schema coders operation := by
  rw [compile_fill, result_reach] at h
  rw [emitted, result_reach]
  generalize Demand.replay coders _ Dictionary.empty = r at h ⊢
  cases r with
  | error e => cases h
  | ok t =>
    refine ⟨rfl, ?_⟩
    simp only [Except.map, Except.bind] at h
    cases hafter : Demand.replay coders (s.demandsAfter schema coders operation) t with
    | error e => simp [hafter] at h
    | ok declared =>
      simp only [hafter, Except.ok.injEq] at h
      subst h
      rfl

/-- **Arguments are written by their place alone.**  Two calls of one field below the same fields,
as the schema names them, have the same text for the same arguments, whatever stands around them;
and other arguments for a call that need the same declarations change the query inside its
parentheses and nowhere else. -/
theorem emitted_locally {site site' : Site} {arguments : Json}
    (hcalled : Key.purify site'.called = Key.purify site.called)
    (henclosing : site'.enclosing = site.enclosing)
    {operationName operationName' : Option String} {q q' : CompiledQuery}
    (h : (site.fill arguments).compile schema coders operationName operation = .ok q)
    (h' : (site'.fill arguments).compile schema coders operationName' operation = .ok q') :
    ∃ t, site.emitted schema coders operation arguments = .ok t ∧
      site'.emitted schema coders operation arguments = .ok t ∧
      q.text = site.queryBefore schema coders operation operationName q.declared ++
        Selection.parenthesised t ++ site.queryAfter schema coders operation ∧
      q'.text = site'.queryBefore schema coders operation operationName' q'.declared ++
        Selection.parenthesised t ++ site'.queryAfter schema coders operation ∧
      ∀ (others : Json) (p : CompiledQuery),
        (site.fill others).compile schema coders operationName operation = .ok p →
        p.declared = q.declared →
        ∃ u, site.emitted schema coders operation others = .ok u ∧
          p.text = site.queryBefore schema coders operation operationName q.declared ++
            Selection.parenthesised u ++ site.queryAfter schema coders operation := by
  have hposition : site'.position operation = site.position operation := by
    rw [position_eq, position_eq, hcalled, henclosing]
  obtain ⟨hemitted, htext⟩ := text_of_compile_fill h
  obtain ⟨hemitted', htext'⟩ := text_of_compile_fill h'
  rw [hposition] at hemitted' htext'
  refine ⟨_, hemitted, hemitted', htext, htext', fun others p hp hdeclared => ?_⟩
  obtain ⟨hothers, hptext⟩ := text_of_compile_fill hp
  rw [hdeclared] at hptext
  exact ⟨_, hothers, hptext⟩

end Site

/-- Every call in a selection has a site. -/
theorem exists_site_of_mem_calls {s : SelectionSet} {c : SchemaPath × Json}
    (h : c ∈ s.calls operation) :
    ∃ site : Site, site.fill c.2 = s ∧ site.position operation = c.1 := by
  obtain ⟨members, directives⟩ := s
  obtain ⟨before, key, site, after, rfl, hposition⟩ :=
    Selection.exists_site_of_mem_memberCalls members h
  exact ⟨⟨before, key, site, after, directives⟩, rfl, hposition⟩

/-! ### Tokens of users -/

/-- A schema in which users have tokens, which can be looked for by their supply, a number and a
custom scalar. -/
def userSchema : Schema :=
  ⟨.ofEntries [("query", "Query")],
    .ofEntries [
      ("Query", .fields (.ofEntries [("user", .arguments (.ofEntries [("id", "String")]))])),
      ("user", .fields (.ofEntries
        [("tokens", .arguments (.ofEntries [("where", "condition"), ("limit", "Int")]))])),
      ("condition", .fields (.ofEntries [("supply", .type "numeric")])),
      ("numeric", .scalar "numeric")],
    .ofEntries [("Query", .fields (.ofEntries [("user", "user")]))]⟩

/-- The tokens of a user, looked for by their supply. -/
def tokensSite : Site :=
  ⟨[], .plain "user",
    .inBody (.object [("id", .string "a):b")])
      (.inMember [] (.plain "tokens") (.here (.object [(.plain "ticker", .leaf)] none)) [] none),
    [], none⟩

/-- The same under aliases, inside a fragment in place, beside other members, and with a variable
declared before. -/
def aliasedSite : Site :=
  ⟨[(.plain "total", .leaf)], .aliased "u" "user",
    .inBody (.object [("id", .string "$qsel:user::$type::String!")])
      (.inMember [(.plain "name", .raw "@skip(if: false)")] (.plain "... on user")
        (.inMember [] (.aliased "t" "tokens")
          (.here (.object [(.plain "ticker", .leaf)] (some "@live"))) [] (some "@stream"))
        [] none),
    [], none⟩

/-- A supply and a limit that is left open. -/
def supplyArguments (supply : WideInt) : Json :=
  .object [("where", .object [("supply", .number (.whole supply))]),
    ("limit", .string "$qsel:n::$type::Int")]

/-- The query for the tokens of a supply. -/
def tokensQuery (supply : String) : CompiledQuery :=
  ⟨"query($n: Int) \x7b user(id: \"a):b\") \x7b tokens(where: \x7bsupply: \"" ++ supply ++
      "\"\x7d, limit: $n) \x7b ticker \x7d \x7d \x7d",
    .ofEntries [("n", "Int")]⟩

/-- The same query under aliases. -/
def aliasedQuery (supply : String) : CompiledQuery :=
  ⟨"query($user: String!, $n: Int) \x7b total u:user(id: $user) \x7b name @skip(if: false) " ++
      "... on user @stream \x7b t:tokens(where: \x7bsupply: \"" ++ supply ++
      "\"\x7d, limit: $n) @live \x7b ticker \x7d \x7d \x7d \x7d",
    .ofEntries [("user", "String!"), ("n", "Int")]⟩

/-- The two queries for tokens have the same text in the parentheses of the tokens, and another
supply changes it there and nowhere else. -/
theorem emitted_locally_tokens :
    (tokensSite.fill (supplyArguments ⟨7, by decide, by decide⟩)).compile
        userSchema numericCoders none "query" = .ok (tokensQuery "7") ∧
    (aliasedSite.fill (supplyArguments ⟨7, by decide, by decide⟩)).compile
        userSchema numericCoders none "query" = .ok (aliasedQuery "7") ∧
    (tokensSite.fill (supplyArguments ⟨8, by decide, by decide⟩)).compile
        userSchema numericCoders none "query" = .ok (tokensQuery "8") ∧
    ∃ before after before' after',
      (tokensQuery "7").text =
        before ++ Selection.parenthesised "where: \x7bsupply: \"7\"\x7d, limit: $n" ++ after ∧
      (aliasedQuery "7").text =
        before' ++ Selection.parenthesised "where: \x7bsupply: \"7\"\x7d, limit: $n" ++ after' ∧
      (tokensQuery "8").text =
        before ++ Selection.parenthesised "where: \x7bsupply: \"8\"\x7d, limit: $n" ++ after := by
  have h : (tokensSite.fill (supplyArguments ⟨7, by decide, by decide⟩)).compile
      userSchema numericCoders none "query" = .ok (tokensQuery "7") := by decide +kernel
  have h' : (aliasedSite.fill (supplyArguments ⟨7, by decide, by decide⟩)).compile
      userSchema numericCoders none "query" = .ok (aliasedQuery "7") := by decide +kernel
  have hothers : (tokensSite.fill (supplyArguments ⟨8, by decide, by decide⟩)).compile
      userSchema numericCoders none "query" = .ok (tokensQuery "8") := by decide +kernel
  have hcalled : Key.purify aliasedSite.called = Key.purify tokensSite.called := by decide +kernel
  have henclosing : aliasedSite.enclosing = tokensSite.enclosing := by decide +kernel
  have hseven : tokensSite.emitted userSchema numericCoders "query"
        (supplyArguments ⟨7, by decide, by decide⟩) =
      .ok "where: \x7bsupply: \"7\"\x7d, limit: $n" := by decide +kernel
  have height : tokensSite.emitted userSchema numericCoders "query"
        (supplyArguments ⟨8, by decide, by decide⟩) =
      .ok "where: \x7bsupply: \"8\"\x7d, limit: $n" := by decide +kernel
  obtain ⟨t, ht, -, htext, htext', hlocal⟩ := Site.emitted_locally hcalled henclosing h h'
  obtain ⟨u, hu, hutext⟩ := hlocal _ _ hothers rfl
  obtain rfl := Except.ok.inj (hseven.symm.trans ht)
  obtain rfl := Except.ok.inj (height.symm.trans hu)
  exact ⟨h, h', hothers, _, _, _, _, htext, htext', hutext⟩

end SelectionSet

end FieldQuery
