import ModuleLang.Proofs.Tree.WellFormed

/-!
# `Proofs.Tree.Relocation` — the same statements elsewhere

A row of tokens may stand elsewhere in a source, or in another source. It has the same words there, and is covered by
the same tree, whose leaves have moved with the tokens. And rows that are covered by statements can be put together.

## Contents
- **Relocation** (`Expr.Covers.relocate` up to `CoversAll.relocate`): a row with the words of a covered one is
  covered too, by a tree that differs in locations only.
- **Rows put together** (`CoversAll.append`), and where they end (`CoversAll.ends`).
-/

namespace ModuleLang

/-! ## Relocation -/

theorem Token.kind_eq_of_word {first second : Token} (h : first.word = second.word) : first.kind = second.kind :=
  congrArg Prod.fst h

/-- **Another row for an expression.** -/
theorem Expr.Covers.relocate {expr : Expr} {tokens tokens' : List Token} (h : expr.Covers tokens)
    (hwords : tokens'.map Token.word = tokens.map Token.word) :
    ∃ moved : Expr, moved.Covers tokens' ∧ moved.eraseLocations = expr.eraseLocations := by
  induction h generalizing tokens' with
  | @literal token hkind =>
      obtain ⟨token', rfl, hword⟩ := List.map_eq_singleton_iff.mp hwords
      refine ⟨.literal token', .literal ((Token.kind_eq_of_word hword).trans hkind), ?_⟩
      simp only [Expr.eraseLocations, Token.eraseLocation_eq_of_word hword]
  | @reference token hkind =>
      obtain ⟨token', rfl, hword⟩ := List.map_eq_singleton_iff.mp hwords
      refine ⟨.reference token', .reference ((Token.kind_eq_of_word hword).trans hkind), ?_⟩
      simp only [Expr.eraseLocations, Token.eraseLocation_eq_of_word hword]
  | @operation operator lhs rhs tokens mark term _ hmark _ ihLeft ihRight =>
      rw [List.map_append] at hwords
      obtain ⟨row, last, rfl, hrow, hlast⟩ := List.map_eq_append_iff.mp hwords
      obtain ⟨mark', rest, rfl, hmark', hrest⟩ := List.map_eq_cons_iff.mp hlast
      obtain ⟨term', rfl, hterm'⟩ := List.map_eq_singleton_iff.mp hrest
      -- the chain on the left moves with its row, and the right operand with its token
      obtain ⟨left, hleft, heraseLeft⟩ := ihLeft hrow
      have hlone : [term'].map Token.word = [term].map Token.word := congrArg (fun word => [word]) hterm'
      obtain ⟨right, hright, heraseRight⟩ := ihRight hlone
      refine ⟨.operation operator left right, ?_, ?_⟩
      · exact .operation hleft ((Token.kind_eq_of_word hmark').trans hmark) hright
      · simp only [Expr.eraseLocations, heraseLeft, heraseRight]

/-- **Another row for a statement.** -/
theorem Statement.Covers.relocate {statement : Statement} {tokens tokens' : List Token}
    (h : statement.Covers tokens) (hwords : tokens'.map Token.word = tokens.map Token.word) :
    ∃ moved : Statement, moved.Covers tokens' ∧ moved.eraseLocations = statement.eraseLocations := by
  cases h with
  | @declaration word name hword hname =>
      obtain ⟨word', rest, rfl, hword', hrest⟩ := List.map_eq_cons_iff.mp hwords
      obtain ⟨name', rfl, hname'⟩ := List.map_eq_singleton_iff.mp hrest
      refine ⟨.declaration name', ?_, ?_⟩
      · exact .declaration ((Token.kind_eq_of_word hword').trans hword) ((Token.kind_eq_of_word hname').trans hname)
      · simp only [Statement.eraseLocations, Token.eraseLocation_eq_of_word hname']
  | @assignment name mark value row hname hmark hvalue =>
      obtain ⟨name', rest, rfl, hname', hrest⟩ := List.map_eq_cons_iff.mp hwords
      obtain ⟨mark', row', rfl, hmark', hrow'⟩ := List.map_eq_cons_iff.mp hrest
      obtain ⟨moved, hmoved, herase⟩ := hvalue.relocate hrow'
      refine ⟨.assignment name' moved, ?_, ?_⟩
      · exact .assignment ((Token.kind_eq_of_word hname').trans hname) ((Token.kind_eq_of_word hmark').trans hmark)
          hmoved
      · simp only [Statement.eraseLocations, Token.eraseLocation_eq_of_word hname', herase]
  | @expression value _ hvalue =>
      obtain ⟨moved, hmoved, herase⟩ := hvalue.relocate hwords
      refine ⟨.expression moved, .expression hmoved, ?_⟩
      simp only [Statement.eraseLocations, herase]

/-- **Another row for a list of statements.** -/
theorem CoversAll.relocate {statements : List Statement} {tokens tokens' : List Token}
    (h : CoversAll statements tokens) (hwords : tokens'.map Token.word = tokens.map Token.word) :
    ∃ moved : List Statement, CoversAll moved tokens' ∧
      moved.map Statement.eraseLocations = statements.map Statement.eraseLocations := by
  induction h generalizing tokens' with
  | nil =>
      rw [List.map_eq_nil_iff.mp hwords]
      exact ⟨[], .nil, rfl⟩
  | @cons statement statements tokens more mark hstatement hmark _ ih =>
      rw [List.map_append] at hwords
      obtain ⟨row, last, rfl, hrow, hlast⟩ := List.map_eq_append_iff.mp hwords
      obtain ⟨mark', more', rfl, hmark', hmore⟩ := List.map_eq_cons_iff.mp hlast
      obtain ⟨first, hfirst, heraseFirst⟩ := hstatement.relocate hrow
      obtain ⟨others, hothers, heraseOthers⟩ := ih hmore
      refine ⟨first :: others, ?_, ?_⟩
      · exact .cons hfirst ((Token.kind_eq_of_word hmark').trans hmark) hothers
      · rw [List.map_cons, List.map_cons, heraseFirst, heraseOthers]

/-! ## Rows put together -/

/-- **Lists of statements are put together** with their rows. -/
theorem CoversAll.append {first second : List Statement} {tokens more : List Token} (h : CoversAll first tokens)
    (h' : CoversAll second more) : CoversAll (first ++ second) (tokens ++ more) := by
  induction h with
  | nil => exact h'
  | cons hstatement hmark _ ih =>
      rw [List.append_assoc]
      exact .cons hstatement hmark ih

/-- The row of a list of statements ends with a semicolon, if there is a statement. -/
theorem CoversAll.ends {statements : List Statement} {tokens : List Token} (h : CoversAll statements tokens) :
    tokens = [] ∨ ∃ before mark, tokens = before ++ [mark] ∧ mark.kind = .semicolon := by
  induction h with
  | nil => exact .inl rfl
  | @cons _ _ tokens more mark _ hmark _ ih =>
      right
      rcases ih with rfl | ⟨before, last, rfl, hlast⟩
      · exact ⟨tokens, mark, rfl, hmark⟩
      · refine ⟨tokens ++ mark :: before, last, ?_, hlast⟩
        simp

end ModuleLang
