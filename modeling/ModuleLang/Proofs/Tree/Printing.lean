import ModuleLang.Proofs.Tree.WellFormed

/-!
# `Proofs.Tree.Printing` — the words of a printed tree

The text of a well-formed tree is written in the words of its yield: the blanks and marks that are printed
between names and numbers keep them apart, and no parenthesis is printed.

## Contents
- **Putting text together** (`Written.blank`, `Written.mark`, `Written.name`): texts are built from the back,
  so what stands behind a lexeme is known when the lexeme is put in front.
- **`written_expr`** up to **`written_render`**: one lemma for each sort of tree.
-/

namespace ModuleLang

open Unicode (isWhiteSpace)

/-! ## Putting text together -/

namespace Written

variable {words : List Word} {rest : List Char}

/-- Blanks in front. -/
theorem blanks {gap : List Char} (hgap : Blanks gap) (h : Written words rest) :
    Written words (gap ++ rest) := by
  cases h with
  | nil hrest => exact .nil (List.forall_mem_append.mpr ⟨hgap, hrest⟩)
  | cons hinner hlexeme hclosed hrest =>
      rw [← List.append_assoc]
      exact .cons (List.forall_mem_append.mpr ⟨hgap, hinner⟩) hlexeme hclosed hrest

/-- A blank in front. -/
theorem blank {c : Char} (hc : isWhiteSpace c = true) (h : Written words rest) :
    Written words (c :: rest) :=
  blanks (List.forall_mem_singleton.mpr hc) h

/-- A lexeme in front. -/
theorem front {kind : TokenKind} {text : List Char} (hlexeme : Lexeme kind text)
    (hclosed : Closed kind rest) (h : Written words rest) :
    Written ((kind, text) :: words) (text ++ rest) := by
  have hgap : Blanks [] := nofun
  exact .cons hgap hlexeme hclosed h

/-- A mark in front. -/
theorem mark {c : Char} {kind : TokenKind} (hc : TokenKind.punctuation? c = some kind)
    (h : Written words rest) : Written ((Symbol.mark kind).word :: words) (c :: rest) := by
  have hspelling : kind.spelling = [c] := by
    unfold TokenKind.punctuation? at hc
    split at hc <;> cases hc <;> rfl
  rw [Symbol.word, hspelling]
  exact front (lexeme_of_mark hc) (closed_of_mark hc rest) h

/-- A keyword in front, and a blank behind it. -/
theorem keyword {kind : TokenKind} (hkind : kind.OfWord kind.spelling) (hne : kind.spelling ≠ [])
    (hletters : kind.spelling.all isWordCharacter = true) (h : Written words rest) :
    Written ((Symbol.mark kind).word :: words) (kind.spelling ++ ' ' :: rest) := by
  have hlexeme : Lexeme kind kind.spelling := .word hne (List.all_eq_true.mp hletters) hkind
  exact front hlexeme (Breaks.closed (.blank rfl rest) kind) (h.blank rfl)

/-- A name in front. -/
theorem name {token : Token} (hname : token.IsName) (hbreaks : Breaks rest) (h : Written words rest) :
    Written ((Symbol.token token).word :: words) (token.lexeme.toList ++ rest) := by
  obtain ⟨hkind, hlexeme⟩ := Token.isName_iff.mp hname
  rw [Symbol.word, Token.word, hkind]
  exact front hlexeme (hbreaks.closed _) h

/-- A number in front. -/
theorem number {token : Token} (hnumber : token.IsNumber) (hbreaks : Breaks rest)
    (h : Written words rest) :
    Written ((Symbol.token token).word :: words) (token.lexeme.toList ++ rest) := by
  obtain ⟨hkind, hlexeme⟩ := Token.isNumber_iff.mp hnumber
  rw [Symbol.word, Token.word, hkind]
  exact front hlexeme (hbreaks.closed _) h

end Written

/-! ## Trees -/

/-- An operator, with a blank before and behind it. -/
theorem written_operator (operator : Operator) {words : List Word} {rest : List Char}
    (h : Written words rest) :
    Written ((Symbol.mark operator.kind).word :: words)
      (' ' :: (operator.symbol.toList ++ ' ' :: rest)) := by
  cases operator with
  | add => exact .blank rfl (.mark (c := '+') rfl (h.blank rfl))
  | sub => exact .blank rfl (.mark (c := '-') rfl (h.blank rfl))

/-- **Expressions.** A right operand is a term, so it is printed without parentheses. -/
theorem written_expr {expr : Expr} (hleaves : expr.LeavesFit) (hform : expr.LeftDeep)
    {words : List Word} {rest : List Char} (hrest : Written words rest) (hbreaks : Breaks rest) :
    Written (expr.yield.map Symbol.word ++ words) (expr.text.toList ++ rest) := by
  induction expr generalizing words rest with
  | literal value => exact hrest.number hleaves hbreaks
  | reference name => exact hrest.name hleaves hbreaks
  | operation operator lhs rhs ihLeft ihRight =>
      have hterm : rhs.LeftDeep := by
        cases rhs with
        | operation => cases hform.2
        | _ => exact trivial
      -- from the back: the right operand, then the operator, then the chain on the left
      have hright := written_operator operator (ihRight hleaves.2 hterm hrest hbreaks)
      have hleft := ihLeft hleaves.1 hform.1 hright (.blank rfl _)
      simp only [Expr.yield, Expr.text, hform.2, String.toList_append, List.map_append, List.map_cons,
        List.append_assoc, List.cons_append]
      exact hleft

/-- **Statements.** -/
theorem written_statement {statement : Statement} (h : statement.WellFormed) {words : List Word}
    {rest : List Char} (hrest : Written words rest) (hbreaks : Breaks rest) :
    Written (statement.yield.map Symbol.word ++ words) (statement.render.toList ++ rest) := by
  cases statement with
  | declaration name =>
      rw [Statement.render, String.toList_append, List.append_assoc]
      exact .keyword rfl (List.cons_ne_nil _ _) rfl (hrest.name h hbreaks)
  | assignment name value =>
      obtain ⟨hname, hleaves, hform⟩ := h
      have hvalue := written_expr hleaves hform hrest hbreaks
      have hmark := Written.blank (c := ' ') rfl (.mark (c := '=') rfl (hvalue.blank (c := ' ') rfl))
      rw [Statement.render, Expr.render_eq_text, String.toList_append, String.toList_append,
        List.append_assoc, List.append_assoc]
      exact hmark.name hname (.blank rfl _)
  | expression value =>
      rw [Statement.render, Expr.render_eq_text]
      exact written_expr h.1 h.2 hrest hbreaks

theorem blanks_indentation : Blanks (Program.indentation 1).toList := by
  rw [Program.indentation, Text.toList_spaces]
  intro c hc
  rw [(List.mem_replicate.mp hc).2]
  rfl

/-- **Lines.** Each statement is printed behind blanks and in front of a semicolon and a line feed. -/
theorem written_statements {statements : List Statement}
    (h : ∀ statement ∈ statements, statement.WellFormed) {words : List Word} {rest : List Char}
    (hrest : Written words rest) :
    Written ((statements.flatMap fun statement => statement.yield ++ [.mark .semicolon]).map Symbol.word
        ++ words)
      ((String.join (statements.map fun statement =>
        Program.indentation 1 ++ statement.render ++ ";\n")).toList ++ rest) := by
  induction statements with
  | nil => exact hrest
  | cons statement statements ih =>
      obtain ⟨hstatement, hstatements⟩ := List.forall_mem_cons.mp h
      -- the semicolon ends the last name or number of the statement
      have hsemicolon := Written.mark (c := ';') rfl (.blank (c := '\n') rfl (ih hstatements))
      have hline := written_statement hstatement hsemicolon (.mark rfl _)
      have hindented := hline.blanks blanks_indentation
      simpa [String.join_cons] using hindented

/-- **Modules.** The words of the printed text are the words of the yield, but for the end token. -/
theorem written_render {m : Module} (h : m.WellFormed) :
    ∃ words, m.yield.map Symbol.word = words ++ [(.eof, [])] ∧ Written words m.render.toList := by
  obtain ⟨⟨hname, hstatements⟩, -⟩ := h
  have hclosing : Written [(Symbol.mark .rightBrace).word] ['\x7d'] := .mark rfl (.nil nofun)
  have hbody := written_statements hstatements hclosing
  have hopening := Written.mark (c := '\x7b') rfl (.blank (c := '\n') rfl hbody)
  have hheader := (hopening.blank (c := ' ') rfl).name hname (.blank rfl _)
  have hmodule := @Written.keyword _ _ .moduleKeyword rfl (List.cons_ne_nil _ _) rfl hheader
  have htext : m.render.toList = TokenKind.moduleKeyword.spelling ++ ' ' :: (m.name.toList ++
      ' ' :: '\x7b' :: '\n' :: ((m.program.renderAt 1).toList ++ ['\x7d'])) := by
    simp [Module.render, TokenKind.spelling]
  rw [htext]
  refine ⟨_, ?_, hmodule⟩
  simp [Module.yield, Statements.yield, Symbol.word, TokenKind.spelling]

end ModuleLang
