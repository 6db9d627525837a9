import ModuleLang.Language.Grammar
import ModuleLang.Tree.WellFormed
import ModuleLang.Tree.Yield

/-!
# `Proofs.Tree.Covering` — which tree stands for a row of tokens

A tree covers a row of tokens if it has the form of a parsed tree and its yield spells the row. Both are said
here at once, rule by rule, so the relation is the grammar with trees. Two questions about it are answered
without a parser: a covered row is in the grammar, and it is covered by one tree only.

## Contents
- **`Expr.Covers`** up to **`Module.Covers`**: a tree covers a row.
- **Form and yield** (`Expr.covers_iff` up to `Module.covers_iff`): covering a row is to have the form of a
  parsed tree and to spell the row.
- **The kinds of a covered row** are in the grammar (`Expr.Covers.isExpr` up to `Module.Covers.sentence`).
- **One tree** (`Expr.Covers.unique` up to `Module.Covers.unique`). A chain is taken apart at its last
  operator, and a list of statements at its first semicolon, which no statement holds.
-/

namespace ModuleLang

/-! ## Covering -/

/-- **An expression covers a row**: its leaves and operators are the row, and what stands on the right of an
    operator is one term. -/
inductive Expr.Covers : Expr → List Token → Prop where
  | literal {token : Token} : token.kind = .number → Covers (literal token) [token]
  | reference {token : Token} : token.kind = .identifier → Covers (reference token) [token]
  | operation {operator : Operator} {lhs rhs : Expr} {tokens : List Token} {mark term : Token} :
      Covers lhs tokens → mark.kind = operator.kind → Covers rhs [term] →
      Covers (operation operator lhs rhs) (tokens ++ [mark, term])

/-- **A statement covers a row**, without a semicolon. -/
inductive Statement.Covers : Statement → List Token → Prop where
  | declaration {word name : Token} :
      word.kind = .varKeyword → name.kind = .identifier → Covers (declaration name) [word, name]
  | assignment {name mark : Token} {value : Expr} {tokens : List Token} :
      name.kind = .identifier → mark.kind = .equals → value.Covers tokens →
      Covers (assignment name value) (name :: mark :: tokens)
  | expression {value : Expr} {tokens : List Token} :
      value.Covers tokens → Covers (expression value) tokens

/-- **A list of statements covers a row**, which has a semicolon behind each. -/
inductive CoversAll : List Statement → List Token → Prop where
  | nil : CoversAll [] []
  | cons {statement : Statement} {statements : List Statement} {tokens more : List Token}
      {mark : Token} : statement.Covers tokens → mark.kind = .semicolon →
      CoversAll statements more → CoversAll (statement :: statements) (tokens ++ mark :: more)

/-- **A module covers a row**, up to the end of the source. -/
inductive Module.Covers : Module → List Token → Prop where
  | ofBody {word name opening closing last : Token} {statements : Statements} {body : List Token} :
      word.kind = .moduleKeyword → name.kind = .identifier → opening.kind = .leftBrace →
      CoversAll statements.items body → statements.Counted →
      closing.kind = .rightBrace → last.kind = .eof →
      Covers ⟨name, ⟨statements⟩⟩ (word :: name :: opening :: (body ++ [closing, last]))

/-- A list with one statement more. -/
theorem CoversAll.snoc {statements : List Statement} {statement : Statement} {tokens more : List Token}
    {mark : Token} (h : CoversAll statements tokens) (hstatement : statement.Covers more)
    (hmark : mark.kind = .semicolon) :
    CoversAll (statements ++ [statement]) (tokens ++ (more ++ [mark])) := by
  induction h with
  | nil => exact .cons hstatement hmark .nil
  | cons hfirst hfirst' _ ih =>
      rw [List.append_assoc, List.cons_append]
      exact .cons hfirst hfirst' ih

theorem Statements.items_ofList (statements : List Statement) :
    (ofList statements).items = statements := by
  induction statements with
  | nil => rfl
  | cons statement statements ih => exact congrArg (statement :: ·) ih

theorem Statements.counted_ofList (statements : List Statement) : (ofList statements).Counted := by
  induction statements with
  | nil => rfl
  | cons statement statements ih => exact congrArg (· + 1) ih

/-! ## Form and yield -/

namespace Spells

variable {symbols : List Symbol} {tokens : List Token}

theorem nil_iff : Spells [] tokens ↔ tokens = [] := by
  constructor
  · rintro ⟨⟩
    rfl
  · rintro rfl
    exact .nil

theorem token_iff {token : Token} :
    Spells (.token token :: symbols) tokens ↔ ∃ rest, tokens = token :: rest ∧ Spells symbols rest := by
  constructor
  · intro h
    cases h with
    | cons hmatches hrest => exact ⟨_, congrArg (· :: _) hmatches, hrest⟩
  · rintro ⟨rest, rfl, hrest⟩
    exact .cons rfl hrest

theorem mark_iff {kind : TokenKind} :
    Spells (.mark kind :: symbols) tokens ↔
      ∃ token rest, tokens = token :: rest ∧ token.kind = kind ∧ Spells symbols rest := by
  constructor
  · intro h
    cases h with
    | cons hmatches hrest => exact ⟨_, _, rfl, hmatches, hrest⟩
  · rintro ⟨token, rest, rfl, hkind, hrest⟩
    exact .cons hkind hrest

theorem append_iff {first second : List Symbol} :
    Spells (first ++ second) tokens ↔
      ∃ before after, tokens = before ++ after ∧ Spells first before ∧ Spells second after := by
  constructor
  · intro h
    induction first generalizing tokens with
    | nil => exact ⟨[], tokens, rfl, .nil, h⟩
    | cons symbol first ih =>
        cases h with
        | cons hmatches hrest =>
            obtain ⟨before, after, rfl, hbefore, hafter⟩ := ih hrest
            exact ⟨_, after, rfl, .cons hmatches hbefore, hafter⟩
  · rintro ⟨before, after, rfl, hbefore, hafter⟩
    induction hbefore with
    | nil => exact hafter
    | cons hmatches _ ih => exact .cons hmatches ih

end Spells

/-- The row of a single term is one token. -/
theorem Expr.spells_term {term : Expr} (hterm : term.isOperation = false) {tokens : List Token}
    (h : Spells term.yield tokens) : term.LeftDeep ∧ ∃ token, tokens = [token] := by
  cases term with
  | literal value =>
      obtain ⟨rest, rfl, hrest⟩ := Spells.token_iff.mp h
      exact ⟨trivial, value, by rw [Spells.nil_iff.mp hrest]⟩
  | reference variableName =>
      obtain ⟨rest, rfl, hrest⟩ := Spells.token_iff.mp h
      exact ⟨trivial, variableName, by rw [Spells.nil_iff.mp hrest]⟩
  | operation => cases hterm

/-- What covers a single token is a single term. -/
theorem Expr.Covers.isOperation_eq {term : Expr} {token : Token} (h : term.Covers [token]) :
    term.isOperation = false := by
  generalize hrow : [token] = row at h
  cases h with
  | literal => rfl
  | reference => rfl
  | @operation _ _ _ tokens =>
      have hlength := congrArg List.length hrow
      simp at hlength

/-- **Form and yield of expressions.** -/
theorem Expr.covers_iff {expr : Expr} {tokens : List Token} :
    expr.Covers tokens ↔ (expr.KindsFit ∧ expr.LeftDeep) ∧ Spells expr.yield tokens := by
  constructor
  · intro h
    induction h with
    | literal hkind => exact ⟨⟨hkind, trivial⟩, .cons rfl .nil⟩
    | reference hkind => exact ⟨⟨hkind, trivial⟩, .cons rfl .nil⟩
    | operation _ hmark hterm ihLeft ihRight =>
        obtain ⟨⟨hkinds, hform⟩, hspells⟩ := ihLeft
        obtain ⟨⟨hkinds', -⟩, hspells'⟩ := ihRight
        exact ⟨⟨⟨hkinds, hkinds'⟩, hform, hterm.isOperation_eq⟩,
          Spells.append_iff.mpr ⟨_, _, rfl, hspells, .cons hmark hspells'⟩⟩
  · rintro ⟨⟨hkinds, hform⟩, hspells⟩
    induction expr generalizing tokens with
    | literal value =>
        obtain ⟨rest, rfl, hrest⟩ := Spells.token_iff.mp hspells
        rw [Spells.nil_iff.mp hrest]
        exact .literal hkinds
    | reference variableName =>
        obtain ⟨rest, rfl, hrest⟩ := Spells.token_iff.mp hspells
        rw [Spells.nil_iff.mp hrest]
        exact .reference hkinds
    | operation operator lhs rhs ihLeft ihRight =>
        obtain ⟨before, after, rfl, hlhs, hafter⟩ := Spells.append_iff.mp hspells
        obtain ⟨mark, row, rfl, hmark, hrhs⟩ := Spells.mark_iff.mp hafter
        obtain ⟨hleft, term, rfl⟩ := spells_term hform.2 hrhs
        exact .operation (ihLeft hlhs hkinds.1 hform.1) hmark (ihRight hrhs hkinds.2 hleft)

/-- The form of a parsed statement. -/
def Statement.Shaped : Statement → Prop :=
  Statement.Parts (·.kind = .identifier) fun expr => expr.KindsFit ∧ expr.LeftDeep

/-- **Form and yield of statements.** -/
theorem Statement.covers_iff {statement : Statement} {tokens : List Token} :
    statement.Covers tokens ↔ statement.Shaped ∧ Spells statement.yield tokens := by
  constructor
  · intro h
    cases h with
    | declaration hword hname => exact ⟨hname, .cons hword (.cons rfl .nil)⟩
    | assignment hname hmark hvalue =>
        obtain ⟨hshaped, hspells⟩ := Expr.covers_iff.mp hvalue
        exact ⟨⟨hname, hshaped⟩, .cons rfl (.cons hmark hspells)⟩
    | expression hvalue => exact Expr.covers_iff.mp hvalue
  · rintro ⟨hshaped, hspells⟩
    cases statement with
    | declaration name =>
        obtain ⟨word, row, rfl, hword, hrow⟩ := Spells.mark_iff.mp hspells
        obtain ⟨rest, rfl, hrest⟩ := Spells.token_iff.mp hrow
        rw [Spells.nil_iff.mp hrest]
        exact .declaration hword hshaped
    | assignment name value =>
        obtain ⟨rest, rfl, hrest⟩ := Spells.token_iff.mp hspells
        obtain ⟨mark, row, rfl, hmark, hrow⟩ := Spells.mark_iff.mp hrest
        exact .assignment hshaped.1 hmark (Expr.covers_iff.mpr ⟨hshaped.2, hrow⟩)
    | expression value => exact .expression (Expr.covers_iff.mpr ⟨hshaped, hspells⟩)

/-- **Form and yield of lists of statements.** -/
theorem coversAll_iff {statements : List Statement} {tokens : List Token} :
    CoversAll statements tokens ↔ (∀ statement ∈ statements, statement.Shaped) ∧
      Spells (statements.flatMap fun statement => statement.yield ++ [.mark .semicolon]) tokens := by
  constructor
  · intro h
    induction h with
    | nil => exact ⟨nofun, .nil⟩
    | cons hstatement hmark _ ih =>
        obtain ⟨hshaped, hspells⟩ := Statement.covers_iff.mp hstatement
        refine ⟨List.forall_mem_cons.mpr ⟨hshaped, ih.1⟩, ?_⟩
        rw [List.flatMap_cons, List.append_assoc]
        exact Spells.append_iff.mpr ⟨_, _, rfl, hspells, .cons hmark ih.2⟩
  · rintro ⟨hshaped, hspells⟩
    induction statements generalizing tokens with
    | nil =>
        rw [Spells.nil_iff.mp hspells]
        exact .nil
    | cons statement statements ih =>
        obtain ⟨hstatement, hstatements⟩ := List.forall_mem_cons.mp hshaped
        rw [List.flatMap_cons, List.append_assoc] at hspells
        obtain ⟨row, after, rfl, hrow, hafter⟩ := Spells.append_iff.mp hspells
        obtain ⟨mark, more, rfl, hmark, hmore⟩ := Spells.mark_iff.mp hafter
        exact .cons (Statement.covers_iff.mpr ⟨hstatement, hrow⟩) hmark (ih hstatements hmore)

/-- **Form and yield of modules.** -/
theorem Module.covers_iff {m : Module} {tokens : List Token} :
    m.Covers tokens ↔ m.Shaped ∧ Spells m.yield tokens := by
  constructor
  · intro h
    cases h with
    | ofBody hword hname hopening hbody hcounted hclosing hlast =>
        obtain ⟨hshaped, hspells⟩ := coversAll_iff.mp hbody
        refine ⟨⟨⟨hname, hshaped⟩, hcounted⟩, .cons hword (.cons rfl (.cons hopening ?_))⟩
        exact Spells.append_iff.mpr ⟨_, _, rfl, hspells, .cons hclosing (.cons hlast .nil)⟩
  · rintro ⟨⟨⟨hname, hshaped⟩, hcounted⟩, hspells⟩
    obtain ⟨word, row, rfl, hword, hrow⟩ := Spells.mark_iff.mp hspells
    obtain ⟨inner, rfl, hinner⟩ := Spells.token_iff.mp hrow
    obtain ⟨opening, block, rfl, hopening, hblock⟩ := Spells.mark_iff.mp hinner
    obtain ⟨body, back, rfl, hbody, hback⟩ := Spells.append_iff.mp hblock
    obtain ⟨closing, ending, rfl, hclosing, hending⟩ := Spells.mark_iff.mp hback
    obtain ⟨last, rest, rfl, hlast, hrest⟩ := Spells.mark_iff.mp hending
    rw [Spells.nil_iff.mp hrest]
    exact .ofBody hword hname hopening (coversAll_iff.mpr ⟨hshaped, hbody⟩) hcounted hclosing hlast

/-! ## The kinds of a covered row -/

namespace Grammar

theorem IsTail.snoc {tail : List TokenKind} {operator term : TokenKind} (htail : IsTail tail)
    (hoperator : IsOperator operator) (hterm : IsTerm term) : IsTail (tail ++ [operator, term]) := by
  induction htail with
  | nil => exact .cons hoperator hterm .nil
  | cons hfirst hsecond _ ih => exact .cons hfirst hsecond ih

theorem IsExpr.snoc {value : List TokenKind} {operator term : TokenKind} (hvalue : IsExpr value)
    (hoperator : IsOperator operator) (hterm : IsTerm term) : IsExpr (value ++ [operator, term]) := by
  cases hvalue with
  | chain hfirst htail => exact .chain hfirst (htail.snoc hoperator hterm)

end Grammar

open Grammar

theorem Operator.isOperator (operator : Operator) : IsOperator operator.kind := by
  cases operator with
  | add => exact .plus
  | sub => exact .minus

theorem Expr.Covers.isExpr {expr : Expr} {tokens : List Token} (h : expr.Covers tokens) :
    IsExpr (kindsOf tokens) := by
  induction h with
  | literal hkind =>
      rw [kindsOf, List.map_singleton, hkind]
      exact .chain .number .nil
  | reference hkind =>
      rw [kindsOf, List.map_singleton, hkind]
      exact .chain .identifier .nil
  | @operation operator lhs rhs tokens mark term _ hmark _ ihLeft ihRight =>
      have hterm : IsTerm term.kind := by
        cases ihRight with
        | chain hterm _ => exact hterm
      have hoperator : IsOperator mark.kind := by
        rw [hmark]
        exact operator.isOperator
      rw [kindsOf_append]
      exact ihLeft.snoc hoperator hterm

theorem Statement.Covers.isStatement {statement : Statement} {tokens : List Token}
    (h : statement.Covers tokens) : IsStatement (kindsOf tokens) := by
  cases h with
  | declaration hword hname =>
      simp only [kindsOf, List.map_cons, List.map_nil, hword, hname]
      exact .declaration
  | assignment hname hmark hvalue =>
      simp only [kindsOf, List.map_cons, hname, hmark]
      exact .assignment hvalue.isExpr
  | expression hvalue => exact .expression hvalue.isExpr

theorem CoversAll.isBody {statements : List Statement} {tokens : List Token}
    (h : CoversAll statements tokens) : IsBody (kindsOf tokens) := by
  induction h with
  | nil => exact .nil
  | cons hstatement hmark _ ih =>
      rw [kindsOf_append, kindsOf, kindsOf, List.map_cons, hmark]
      exact .cons hstatement.isStatement ih

/-- **A covered row is a sentence.** -/
theorem Module.Covers.sentence {m : Module} {tokens : List Token} (h : m.Covers tokens) :
    Sentence (kindsOf tokens) := by
  cases h with
  | ofBody hword hname hopening hbody _ hclosing hlast =>
      simp only [kindsOf, List.map_cons, List.map_append, List.map_nil, hword, hname, hopening, hclosing,
        hlast]
      exact .ofBody hbody.isBody

/-! ## One tree -/

theorem singleton_ne_snoc {token mark term : Token} {tokens : List Token} :
    [token] ≠ tokens ++ [mark, term] := by
  intro hrow
  have hlength := congrArg List.length hrow
  simp at hlength

theorem Operator.kind_injective {first second : Operator} (h : first.kind = second.kind) :
    first = second := by
  cases first <;> cases second <;> first | rfl | cases h

/-- **One expression.** The last operator of the row is the operator at the root. -/
theorem Expr.Covers.unique {a b : Expr} {tokens : List Token} (ha : a.Covers tokens)
    (hb : b.Covers tokens) : a = b := by
  generalize hrow : tokens = row at hb
  induction ha generalizing b row with
  | literal hkind =>
      cases hb with
      | literal => cases hrow; rfl
      | reference hkind' =>
          cases hrow
          cases hkind.symm.trans hkind'
      | operation => exact absurd hrow singleton_ne_snoc
  | reference hkind =>
      cases hb with
      | literal hkind' =>
          cases hrow
          cases hkind.symm.trans hkind'
      | reference => cases hrow; rfl
      | operation => exact absurd hrow singleton_ne_snoc
  | operation _ hmark _ ihLeft ihRight =>
      cases hb with
      | literal => exact absurd hrow.symm singleton_ne_snoc
      | reference => exact absurd hrow.symm singleton_ne_snoc
      | operation hlhs hmark' hrhs =>
          -- both rows end in an operator and a term, so these are the same, and so is what stands before them
          obtain ⟨htokens, hlast⟩ := List.append_inj' hrow rfl
          cases hlast
          rw [ihLeft _ htokens hlhs, ihRight _ rfl hrhs,
            Operator.kind_injective (hmark.symm.trans hmark')]

/-- An expression begins with a term, so not with a word. -/
theorem Expr.not_covers_word {expr : Expr} {word : Token} {rest : List Token}
    (hword : word.kind = .varKeyword) : ¬ expr.Covers (word :: rest) := by
  intro h
  have hexpr := h.isExpr
  rw [kindsOf, List.map_cons, hword] at hexpr
  cases hexpr with
  | chain hterm _ => cases hterm

/-- What stands behind the first term of an expression is an operator, so not an equals sign. -/
theorem Expr.not_covers_equals {expr : Expr} {first mark : Token} {rest : List Token}
    (hmark : mark.kind = .equals) : ¬ expr.Covers (first :: mark :: rest) := by
  intro h
  have hexpr := h.isExpr
  rw [kindsOf, List.map_cons, List.map_cons, hmark] at hexpr
  generalize rest.map (·.kind) = kinds at hexpr
  cases hexpr with
  | chain _ htail => cases htail with
    | cons hoperator _ _ => cases hoperator

/-- **One statement.** The first two tokens of the row tell the sorts of statements apart. -/
theorem Statement.Covers.unique {a b : Statement} {tokens : List Token} (ha : a.Covers tokens)
    (hb : b.Covers tokens) : a = b := by
  generalize hrow : tokens = row at hb
  cases ha with
  | declaration hword hname =>
      cases hb with
      | declaration => cases hrow; rfl
      | assignment hname' =>
          cases hrow
          cases hword.symm.trans hname'
      | expression hvalue =>
          cases hrow
          exact absurd hvalue (Expr.not_covers_word hword)
  | assignment hname hmark hvalue =>
      cases hb with
      | declaration hword =>
          cases hrow
          cases hword.symm.trans hname
      | assignment _ _ hvalue' =>
          cases hrow
          rw [hvalue.unique hvalue']
      | expression hvalue' =>
          cases hrow
          exact absurd hvalue' (Expr.not_covers_equals hmark)
  | expression hvalue =>
      cases hb with
      | declaration hword =>
          cases hrow
          exact absurd hvalue (Expr.not_covers_word hword)
      | assignment _ hmark =>
          cases hrow
          exact absurd hvalue (Expr.not_covers_equals hmark)
      | expression hvalue' =>
          cases hrow
          rw [hvalue.unique hvalue']

namespace Grammar

theorem IsTail.semicolon_not_mem {tail : List TokenKind} (h : IsTail tail) : .semicolon ∉ tail := by
  induction h with
  | nil => exact List.not_mem_nil
  | cons hoperator hterm _ ih => cases hoperator <;> cases hterm <;> simpa using ih

theorem IsExpr.semicolon_not_mem {value : List TokenKind} (h : IsExpr value) : .semicolon ∉ value := by
  cases h with
  | chain hterm htail => cases hterm <;> simpa using htail.semicolon_not_mem

/-- There is no semicolon in a statement. -/
theorem IsStatement.semicolon_not_mem {statement : List TokenKind} (h : IsStatement statement) :
    .semicolon ∉ statement := by
  cases h with
  | declaration => decide
  | assignment hvalue => simpa using hvalue.semicolon_not_mem
  | expression hvalue => exact hvalue.semicolon_not_mem

end Grammar

/-- The first semicolon of a row is at one place. -/
theorem semicolon_split {first first' more more' : List Token} {mark mark' : Token}
    (hrow : first ++ mark :: more = first' ++ mark' :: more')
    (hfirst : .semicolon ∉ kindsOf first) (hfirst' : .semicolon ∉ kindsOf first')
    (hmark : mark.kind = .semicolon) (hmark' : mark'.kind = .semicolon) :
    first = first' ∧ more = more' := by
  induction first generalizing first' with
  | nil =>
      cases first' with
      | nil =>
          cases hrow
          exact ⟨rfl, rfl⟩
      | cons token rest =>
          cases hrow
          exact absurd (hmark ▸ List.mem_cons_self) hfirst'
  | cons token first ih =>
      cases first' with
      | nil =>
          cases hrow
          exact absurd (hmark' ▸ List.mem_cons_self) hfirst
      | cons token' rest =>
          obtain ⟨rfl, hrest⟩ := List.cons.inj hrow
          obtain ⟨rfl, hmore⟩ := ih hrest (fun h => hfirst (List.mem_cons_of_mem _ h))
            fun h => hfirst' (List.mem_cons_of_mem _ h)
          exact ⟨rfl, hmore⟩

/-- **One list of statements.** The first semicolon of the row ends the first statement. -/
theorem CoversAll.unique {a b : List Statement} {tokens : List Token} (ha : CoversAll a tokens)
    (hb : CoversAll b tokens) : a = b := by
  generalize hrow : tokens = row at hb
  induction ha generalizing b row with
  | nil =>
      cases hb with
      | nil => rfl
      | cons => exact absurd hrow (by simp)
  | cons hstatement hmark _ ih =>
      cases hb with
      | nil => exact absurd hrow (by simp)
      | cons hstatement' hmark' hrest' =>
          -- no statement holds a semicolon, so the first semicolon ends the first statement on both sides
          obtain ⟨rfl, hmore⟩ := semicolon_split hrow hstatement.isStatement.semicolon_not_mem
            hstatement'.isStatement.semicolon_not_mem hmark hmark'
          rw [hstatement.unique hstatement', ih _ hmore hrest']

theorem Statements.eq_of_items {a b : Statements} (ha : a.Counted) (hb : b.Counted)
    (hitems : a.items = b.items) : a = b := by
  obtain ⟨items, length⟩ := a
  obtain ⟨items', length'⟩ := b
  cases hitems
  rw [show length = length' from ha.trans hb.symm]

/-- **One module.** -/
theorem Module.Covers.unique {a b : Module} {tokens : List Token} (ha : a.Covers tokens)
    (hb : b.Covers tokens) : a = b := by
  generalize hrow : tokens = row at hb
  cases ha with
  | ofBody _ _ _ hbody hcounted _ _ =>
      cases hb with
      | ofBody _ _ _ hbody' hcounted' _ _ =>
          injection hrow with _ hrow
          injection hrow with hname hrow
          injection hrow with _ hrow
          obtain ⟨rfl, -⟩ := List.append_inj' hrow rfl
          rw [hname, Statements.eq_of_items hcounted hcounted' (hbody.unique hbody')]

end ModuleLang
