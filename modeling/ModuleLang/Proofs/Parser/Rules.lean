import ModuleLang.Parser.Grammar
import ModuleLang.Proofs.Parser.Trail

/-!
# `Proofs.Parser.Rules` — what each rule of the parser does

Each rule of the parser has a specification here: from a place of the grammar where it may be used, it either
takes a row of tokens that its tree covers, and keeps the trail, or it fails at a fault of the trail. The
rules that use it refer to the specification only.

## Contents
- **Terms and expressions.** `meets_term`, `meets_link`, `meets_chain`, `meets_expression`. The chain so far
  is the invariant (`ReadExpr`). Behind it only an operator or a semicolon can follow (`BehindTerm`).
- **Statements.** `meets_isAssignment`, `meets_statement`, `meets_terminated`. What has to hold behind a
  statement does not depend on its sort (`Ends`).
- **Modules.** `meets_item`, `meets_statements`, `meets_wholeModule`.
- **`parse_cases`**: the two ways in which parsing a source ends.
-/

namespace ModuleLang

namespace Parser

open Grammar

variable {start : Place} {origin row left : Row} {before : List Token} {token : Token}
  {bad : ParseError → Row → Prop}

/-! ## Terms and expressions -/

/-- A token that is a term is taken. -/
theorem meets_term_cons (hterm : IsTerm token.kind) :
    Meets term (Row.cons token left) bad fun expr row => expr.Covers [token] ∧ row = left := by
  refine Meets.peekKind.next ?_
  generalize hkind : token.kind = kind at hterm
  cases hterm with
  | number => exact Meets.advance.next (.pure ⟨.literal hkind, rfl⟩)
  | identifier => exact Meets.advance.next (.pure ⟨.reference hkind, rfl⟩)

/-- A token that is no term is reported. -/
theorem meets_term_other {good : Expr → Row → Prop} (hterm : ¬ IsTerm token.kind)
    (h : bad (.unexpected termStart token) (Row.cons token left)) :
    Meets term (Row.cons token left) bad good := by
  refine Meets.peekKind.next ?_
  split
  case h_1 hkind => exact absurd (hkind ▸ .number) hterm
  case h_2 hkind => exact absurd (hkind ▸ .identifier) hterm
  case h_3 => exact .report h

/-- Where a term is wanted, there is a place for terms only. -/
theorem step_wanting (kind : TokenKind) :
    (IsTerm kind ∧ Place.wanting.step kind = some .complete) ∨
      (¬ IsTerm kind ∧ Place.wanting.step kind = none) := by
  cases kind <;> first
    | exact .inl ⟨.number, rfl⟩
    | exact .inl ⟨.identifier, rfl⟩
    | exact .inr ⟨nofun, rfl⟩

theorem listed_wanting (kind : TokenKind) : kind ∈ termStart ↔ Listed .wanting kind := by
  cases kind <;> decide

/-- **A wanted term.** -/
theorem meets_term {tokens : List Token} (h : Trail start origin tokens .wanting row) :
    Meets term row (Faults start origin) fun expr left =>
      ∃ token, expr.Covers [token] ∧ Trail start origin (tokens ++ [token]) .complete left := by
  rcases row.cases with ⟨failure, hrow⟩ | ⟨token, left, rfl⟩
  · exact .stop (.peekKind_failing hrow (.lexical h hrow))
  · rcases step_wanting token.kind with ⟨hterm, hstep⟩ | ⟨hterm, hstep⟩
    · refine (meets_term_cons hterm).mono ?_
      rintro expr row ⟨hcovers, rfl⟩
      exact ⟨token, hcovers, h.take hstep⟩
    · exact meets_term_other hterm (.unexpected h hstep (List.cons_ne_nil _ _) listed_wanting)

/-- A place behind a term. Behind an identifier that a statement begins with, the next token must not be an
    equals sign: else the identifier is no term. -/
inductive BehindTerm : Place → Row → Prop where
  | complete {row : Row} : BehindTerm .complete row
  | named {row : Row} : (∀ token, row 0 = .ok token → token.kind ≠ .equals) → BehindTerm .named row

/-- What comes next behind a term has the same place, whichever term it is. -/
theorem BehindTerm.step_eq {place : Place} (h : BehindTerm place (Row.cons token left)) :
    place.step token.kind = Place.complete.step token.kind := by
  cases h with
  | complete => rfl
  | named hnext =>
      have hkind := hnext token rfl
      generalize token.kind = kind at hkind
      cases kind <;> first
        | rfl
        | exact absurd rfl hkind

/-- An expression that was read. -/
def ReadExpr (start : Place) (origin : Row) (before : List Token) (expr : Expr) (row : Row) : Prop :=
  ∃ tokens place, Trail start origin (before ++ tokens) place row ∧ BehindTerm place row ∧
    expr.Covers tokens

/-- No operator comes next. -/
def NoOperator (row : Row) : Prop :=
  ∃ token left, row = Row.cons token left ∧ operator? token.kind = none

theorem operator?_eq_some {kind : TokenKind} {operator : Operator} (h : operator? kind = some operator) :
    kind = operator.kind ∧ Place.complete.step kind = some .wanting := by
  cases kind <;> cases h <;> exact ⟨rfl, rfl⟩

/-- **A link of a chain.** -/
theorem meets_link {expr : Expr} (h : ReadExpr start origin before expr row) :
    Meets (link expr) row (Faults start origin) fun next left =>
      match next with
      | none => ReadExpr start origin before expr left ∧ NoOperator left
      | some longer => ReadExpr start origin before longer left := by
  obtain ⟨tokens, place, htrail, hplace, hcovers⟩ := h
  rcases row.cases with ⟨failure, hrow⟩ | ⟨token, left, rfl⟩
  · exact .stop (.peekKind_failing hrow (.lexical htrail hrow))
  · refine Meets.peekKind.next ?_
    cases hoperator : operator? token.kind with
    | none => exact .pure ⟨⟨tokens, place, htrail, hplace, hcovers⟩, token, left, rfl, hoperator⟩
    | some operator =>
        -- the operator leads on from `complete`, and so it does from the place of the chain so far
        obtain ⟨hkind, hstep⟩ := operator?_eq_some hoperator
        refine Meets.advance.next ((meets_term (htrail.take (hplace.step_eq.trans hstep))).bind ?_)
        rintro rhs behind ⟨term, hterm, hbehind⟩
        refine .pure ⟨tokens ++ [token, term], .complete, ?_, .complete, .operation hcovers hkind hterm⟩
        simpa only [List.append_assoc, List.singleton_append] using hbehind

/-- **A chain**, from its first term on. -/
theorem meets_chain {expr : Expr} (h : ReadExpr start origin before expr row) :
    Meets (chain expr) row (Faults start origin) fun longer left =>
      ReadExpr start origin before longer left ∧ NoOperator left := by
  refine Meets.repeatedly (ReadExpr start origin before) ?_ h
  intro expr row h
  refine (meets_link h).mono ?_
  intro next left hnext
  cases next <;> exact hnext

/-- **A wanted expression.** -/
theorem meets_expression (h : Trail start origin before .wanting row) :
    Meets expression row (Faults start origin) fun expr left =>
      ReadExpr start origin before expr left ∧ NoOperator left := by
  refine (meets_term h).bind ?_
  rintro expr left ⟨token, hcovers, htrail⟩
  exact meets_chain ⟨[token], .complete, htrail, .complete, hcovers⟩

/-! ## Statements -/

/-- **Telling assignments from expressions.** The answer is about the token behind an identifier. If the row
    fails there, so does the question, though the identifier itself could be taken. -/
theorem meets_isAssignment (h : Trail start origin before .listing (Row.cons token left)) :
    Meets isAssignment (Row.cons token left) (Faults start origin) fun holds row =>
      row = Row.cons token left ∧
        (holds = true → token.kind = .identifier ∧ ∃ mark rest, left = Row.cons mark rest ∧
          mark.kind = .equals) ∧
        (holds = false → token.kind = .identifier → ∀ mark, left 0 = .ok mark → mark.kind ≠ .equals) := by
  refine (Meets.check _).next ?_
  by_cases hname : token.kind = .identifier
  · rw [beq_iff_eq.mpr hname]
    rcases left.cases with ⟨failure, hfailure⟩ | ⟨mark, rest, rfl⟩
    · -- the look fails behind the identifier, which is not taken
      exact .stop (.lookAt_failing hfailure (.behindName h hname hfailure))
    · have hmark : Row.cons token (Row.cons mark rest) 1 = .ok mark := rfl
      refine (Meets.lookAt hmark).next (.pure ⟨rfl, ?_, ?_⟩)
      · intro hequals
        exact ⟨hname, mark, rest, rfl, eq_of_beq hequals⟩
      · rintro hequals - _ ⟨⟩
        exact ne_of_beq_false hequals
  · rw [beq_false_of_ne hname]
    exact .pure ⟨rfl, nofun, fun _ h => absurd h hname⟩

/-- What holds at the place behind a statement. -/
structure Ends (place : Place) (statement : Statement) (row : Row) : Prop where
  /-- A semicolon can stand here, and ends the statement. -/
  semicolon : place.step .semicolon = some .listing
  /-- What is expected behind the statement is what is listed here. -/
  expected : ∀ kind, kind ∈ statementEnd statement ↔ Listed place kind
  /-- If the next token is no semicolon, it cannot stand here. -/
  other : ∀ token, row 0 = .ok token → token.kind ≠ .semicolon → place.step token.kind = none

/-- A statement that was read. -/
def ReadStatement (start : Place) (origin : Row) (before : List Token) (statement : Statement)
    (row : Row) : Prop :=
  ∃ tokens place, Trail start origin (before ++ tokens) place row ∧ Ends place statement row ∧
    statement.Covers tokens

/-- Behind an expression with no operator behind it, a statement can end. -/
theorem BehindTerm.ends {place : Place} {statement : Statement} (h : BehindTerm place row)
    (hnext : NoOperator row) (hexpected : statementEnd statement = expressionEnd) :
    Ends place statement row := by
  obtain ⟨token, left, rfl, hoperator⟩ := hnext
  constructor
  case semicolon => cases h <;> rfl
  case expected =>
    intro kind
    rw [hexpected]
    cases h <;> cases kind <;> decide
  case other =>
    rintro _ ⟨⟩ hkind
    rw [h.step_eq]
    generalize token.kind = kind at hoperator hkind
    cases kind <;> first
      | rfl
      | exact absurd rfl hkind
      | cases hoperator

theorem listed_declared (kind : TokenKind) : kind ∈ [.semicolon] ↔ Listed .declared kind := by
  cases kind <;> decide

theorem step_declared {kind : TokenKind} (hkind : kind ≠ .semicolon) :
    Place.declared.step kind = none := by
  cases kind <;> first
    | rfl
    | exact absurd rfl hkind

/-- **A declaration.** -/
theorem meets_declaration (h : Trail start origin before .listing (Row.cons token left))
    (hword : token.kind = .varKeyword) :
    Meets declaration (Row.cons token left) (Faults start origin)
      (ReadStatement start origin before) := by
  have hdeclaring : Trail start origin (before ++ [token]) .declaring left := h.take (by rw [hword]; rfl)
  refine (Meets.expect hword).next (hdeclaring.expect .declaring fun name row hname hdeclared => ?_)
  rw [List.append_assoc] at hdeclared
  refine .pure ⟨[token, name], .declared, hdeclared, ?_, .declaration hword hname⟩
  exact ⟨rfl, listed_declared, fun next _ hnext => step_declared hnext⟩

/-- **An assignment.** -/
theorem meets_assignment {mark : Token}
    (h : Trail start origin before .listing (Row.cons token (Row.cons mark left)))
    (hname : token.kind = .identifier) (hmark : mark.kind = .equals) :
    Meets assignment (Row.cons token (Row.cons mark left)) (Faults start origin)
      (ReadStatement start origin before) := by
  have hnamed : Trail start origin (before ++ [token]) .named (Row.cons mark left) :=
    h.take (by rw [hname]; rfl)
  have hwanting : Trail start origin (before ++ [token] ++ [mark]) .wanting left :=
    hnamed.take (by rw [hmark]; rfl)
  refine (Meets.expect hname).next ((Meets.expect hmark).next ((meets_expression hwanting).bind ?_))
  rintro value row ⟨⟨tokens, place, htrail, hplace, hcovers⟩, hnext⟩
  refine .pure ⟨token :: mark :: tokens, place, ?_, hplace.ends hnext rfl,
    .assignment hname hmark hcovers⟩
  simpa only [List.append_assoc, List.cons_append, List.nil_append] using htrail

/-- **An expression that a statement begins with.** -/
theorem meets_expression_cons (h : Trail start origin before .listing (Row.cons token left))
    (hterm : IsTerm token.kind)
    (hnext : token.kind = .identifier → ∀ mark, left 0 = .ok mark → mark.kind ≠ .equals) :
    Meets expression (Row.cons token left) (Faults start origin) fun expr row =>
      ReadExpr start origin before expr row ∧ NoOperator row := by
  refine (meets_term_cons hterm).bind ?_
  rintro expr behind ⟨hcovers, rfl⟩
  generalize hkind : token.kind = kind at hterm hnext
  cases hterm with
  | number =>
      have hcomplete : Trail start origin (before ++ [token]) .complete behind :=
        h.take (by rw [hkind]; rfl)
      exact meets_chain ⟨[token], .complete, hcomplete, .complete, hcovers⟩
  | identifier =>
      have hnamed : Trail start origin (before ++ [token]) .named behind := h.take (by rw [hkind]; rfl)
      exact meets_chain ⟨[token], .named, hnamed, .named (hnext rfl), hcovers⟩

theorem listed_listing (kind : TokenKind) : kind ∈ statementStart ↔ Listed .listing kind := by
  cases kind <;> decide

/-- **A statement**, where the closing brace does not come next. -/
theorem meets_statement (h : Trail start origin before .listing (Row.cons token left))
    (hbrace : token.kind ≠ .rightBrace) :
    Meets statement (Row.cons token left) (Faults start origin)
      (ReadStatement start origin before) := by
  -- identifiers and numbers share a branch of the rule
  have hopen (hterm : IsTerm token.kind) :
      Meets (do if ← isAssignment then assignment else return .expression (← expression))
        (Row.cons token left) (Faults start origin) (ReadStatement start origin before) := by
    refine (meets_isAssignment h).bind ?_
    rintro holds _ ⟨rfl, hassignment, hexpression⟩
    cases holds with
    | true =>
        obtain ⟨hname, mark, rest, rfl, hmark⟩ := hassignment rfl
        exact meets_assignment h hname hmark
    | false =>
        refine (meets_expression_cons h hterm (hexpression rfl)).bind ?_
        rintro value row ⟨⟨tokens, place, htrail, hplace, hcovers⟩, hnext⟩
        exact .pure ⟨tokens, place, htrail, hplace.ends hnext rfl, .expression hcovers⟩
  refine Meets.peekKind.next ?_
  split
  case h_1 hword => exact meets_declaration h hword
  case h_2 hname => exact hopen (hname ▸ .identifier)
  case h_3 hnumber => exact hopen (hnumber ▸ .number)
  case h_4 hword hname hnumber =>
    refine .report (.unexpected h ?_ (List.cons_ne_nil _ _) listed_listing)
    generalize token.kind = kind at *
    cases kind <;> first
      | rfl
      | contradiction

/-- **A statement and its semicolon**, where the closing brace does not come next. -/
theorem meets_terminated (h : Trail start origin before .listing (Row.cons token left))
    (hbrace : token.kind ≠ .rightBrace) :
    Meets terminated (Row.cons token left) (Faults start origin) fun statement row =>
      ∃ tokens mark, Trail start origin (before ++ (tokens ++ [mark])) .listing row ∧
        statement.Covers tokens ∧ mark.kind = .semicolon := by
  refine (meets_statement h hbrace).bind ?_
  rintro statement row ⟨tokens, place, htrail, hends, hcovers⟩
  rcases row.cases with ⟨failure, hrow⟩ | ⟨mark, rest, rfl⟩
  · exact .stop (.check_failing hrow (.lexical htrail hrow))
  · refine (Meets.check _).next ?_
    by_cases hmark : mark.kind = .semicolon
    · rw [beq_iff_eq.mpr hmark]
      refine Meets.advance.next (.pure ⟨tokens, mark, ?_, hcovers, hmark⟩)
      rw [← List.append_assoc]
      exact htrail.take (hmark ▸ hends.semicolon)
    · rw [beq_false_of_ne hmark]
      refine .report (.unexpected htrail (hends.other mark rfl hmark) ?_ hends.expected)
      cases statement <;> exact List.cons_ne_nil _ _

/-! ## Modules -/

/-- Statements that were read, the last one first. -/
def ReadAll (start : Place) (origin : Row) (before : List Token) (parsed : List Statement)
    (row : Row) : Prop :=
  ∃ tokens, Trail start origin (before ++ tokens) .listing row ∧ CoversAll parsed.reverse tokens

/-- The closing brace comes next. -/
def ClosingBrace (row : Row) : Prop :=
  ∃ token left, row = Row.cons token left ∧ token.kind = .rightBrace

/-- **One statement more.** -/
theorem meets_item {parsed : List Statement} (h : ReadAll start origin before parsed row) :
    Meets (item parsed) row (Faults start origin) fun next left =>
      match next with
      | none => ReadAll start origin before parsed left ∧ ClosingBrace left
      | some longer => ReadAll start origin before longer left := by
  obtain ⟨tokens, htrail, hcovers⟩ := h
  rcases row.cases with ⟨failure, hrow⟩ | ⟨token, left, rfl⟩
  · exact .stop (.check_failing hrow (.lexical htrail hrow))
  · refine (Meets.check _).next ?_
    by_cases hbrace : token.kind = .rightBrace
    · rw [beq_iff_eq.mpr hbrace]
      exact .pure ⟨⟨tokens, htrail, hcovers⟩, token, left, rfl, hbrace⟩
    · rw [beq_false_of_ne hbrace]
      refine (meets_terminated htrail hbrace).bind ?_
      rintro statement row ⟨more, mark, hbehind, hstatement, hmark⟩
      rw [List.append_assoc] at hbehind
      refine .pure ⟨tokens ++ (more ++ [mark]), hbehind, ?_⟩
      rw [List.reverse_cons]
      exact hcovers.snoc hstatement hmark

/-- **All statements** up to the closing brace. -/
theorem meets_statements (h : Trail start origin before .listing row) :
    Meets statements row (Faults start origin) fun items left =>
      ReadAll start origin before items.reverse left ∧ ClosingBrace left := by
  -- the loop has the statements last one first
  have hloop : Meets (repeatedly item item_advances []) row (Faults start origin) fun parsed left =>
      ReadAll start origin before parsed left ∧ ClosingBrace left := by
    refine Meets.repeatedly (ReadAll start origin before) ?_ ⟨[], (List.append_nil before).symm ▸ h, .nil⟩
    intro parsed row h
    refine (meets_item h).mono ?_
    intro next left hnext
    cases next <;> exact hnext
  refine hloop.bind ?_
  rintro parsed left ⟨hread, hbrace⟩
  exact .pure ⟨(List.reverse_reverse parsed).symm ▸ hread, hbrace⟩

/-- **A whole module.** -/
theorem meets_wholeModule (origin : Row) :
    Meets wholeModule origin (Faults .opening origin) fun m left =>
      ∃ tokens, Trail .opening origin tokens .finished left ∧ m.Covers tokens := by
  refine Trail.nil.expect .opening fun word row hword hnaming => ?_
  refine hnaming.expect .naming fun name row hname hentering => ?_
  refine hentering.expect .entering fun opening row hopening hlisting => ?_
  refine (meets_statements hlisting).bind ?_
  rintro items left ⟨⟨body, hbody, hcovers⟩, closing, rest, rfl, hclosing⟩
  rw [List.reverse_reverse] at hcovers
  refine (Meets.expect hclosing).next ?_
  -- the loop has already looked at the closing brace
  have hclosed : Trail .opening origin _ .closing rest := hbody.take (by rw [hclosing]; rfl)
  refine hclosed.expect .closing fun last row hlast hfinished => ?_
  refine .pure ⟨word :: name :: opening :: (body ++ [closing, last]), ?_, ?_⟩
  · simpa only [List.append_assoc, List.cons_append, List.nil_append] using hfinished
  · refine .ofBody hword hname hopening ?_ (Statements.counted_ofList items) hclosing hlast
    rwa [Statements.items_ofList]

end Parser

/-- **The two outcomes.** Parsing a source takes a whole module off its row, or fails at a fault. -/
theorem parse_cases (source : String) :
    (∃ m tokens left, parse source = .ok m ∧
      Parser.Trail .opening (Cursor.ofSource source).row tokens .finished left ∧ m.Covers tokens) ∨
    ∃ error left, parse source = .error error ∧
      Parser.Faults .opening (Cursor.ofSource source).row error left := by
  -- the equation of `parse` is slow to make, because its body evaluates; its definition is enough
  delta parse
  rcases Parser.meets_wholeModule _ (.ofSource source) (Lookahead.row_ofSource source) with
    ⟨m, left, hrun, tokens, htrail, hcovers⟩ | ⟨error, left, hrun, hfaults⟩
  · rw [hrun]
    exact .inl ⟨m, tokens, left.row, rfl, htrail, hcovers⟩
  · rw [hrun]
    exact .inr ⟨error, left.row, rfl, hfaults⟩

end ModuleLang
