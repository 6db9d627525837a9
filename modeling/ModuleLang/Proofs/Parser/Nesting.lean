import ModuleLang.Proofs.Parser.Layout
import ModuleLang.Proofs.Token.FirstStray
import ModuleLang.Proofs.Tree.Printing

/-!
# `Proofs.Parser.Nesting` — the printed text of a nested tree

A tree that was built by hand can have an operation on the right of another. It is printed in parentheses, which the
language does not have. So the text cannot be parsed, and the parser says why: everything in front of the first
parenthesis could be the beginning of a module, and then there is a character that begins no token.

## Contents
- **`RightNested`**: expressions, statements and modules with an operation on the right of another. All other trees
  have the form of parsed ones (`Expr.rightNested_iff`).
- **`BreaksOff`**: a text that could go on in front of a character. It stays so inside of a longer text
  (`BreaksOff.within`), and the parser complains about the character (`BreaksOff.parse`).
- **One lemma for each sort of tree** (`breaksOff_expr` up to `breaksOff_render`): where there is a nested operation,
  the text breaks off at a parenthesis.
- **`parse_render_rightNested`**: the printed text of a nested tree is rejected for its first parenthesis.
-/

namespace ModuleLang

open Grammar

/-! ## Nesting on the right -/

/-- **Nesting on the right.** Somewhere in the expression, an operation is the right operand of another. -/
inductive Expr.RightNested : Expr → Prop where
  | here {operator : Operator} {lhs rhs : Expr} : rhs.isOperation = true →
      RightNested (.operation operator lhs rhs)
  | left {operator : Operator} {lhs rhs : Expr} : RightNested lhs → RightNested (.operation operator lhs rhs)
  | right {operator : Operator} {lhs rhs : Expr} : RightNested rhs → RightNested (.operation operator lhs rhs)

/-- The expression of the statement, if it has one, is nested on the right. -/
def Statement.RightNested : Statement → Prop
  | declaration _ => False
  | assignment _ value => value.RightNested
  | expression value => value.RightNested

/-- Some statement of the module is nested on the right. -/
def Module.RightNested (m : Module) : Prop :=
  ∃ statement ∈ m.statements.items, statement.RightNested

/-- Terms are not nested. -/
theorem Expr.RightNested.isOperation {expr : Expr} (h : expr.RightNested) : expr.isOperation = true := by
  cases h <;> rfl

/-- The right operand of a nested operation is an operation too, unless the nesting is on its left. -/
theorem Expr.RightNested.of_not_left {operator : Operator} {lhs rhs : Expr}
    (h : (Expr.operation operator lhs rhs).RightNested) (hleft : ¬ lhs.RightNested) : rhs.isOperation = true := by
  cases h with
  | here hoperation => exact hoperation
  | left hnested => exact absurd hnested hleft
  | right hnested => exact hnested.isOperation

/-- **The trees that no source can hold**, for their form: those that are nested on the right. -/
theorem Expr.rightNested_iff {expr : Expr} : expr.RightNested ↔ ¬ expr.LeftDeep := by
  induction expr with
  | literal => exact iff_of_false nofun (not_not.mpr trivial)
  | reference => exact iff_of_false nofun (not_not.mpr trivial)
  | operation operator lhs rhs ihLeft _ =>
      constructor
      · rintro h ⟨hform, hterm⟩
        have hnested : ¬ lhs.RightNested := fun hleft => ihLeft.mp hleft hform
        cases hterm.symm.trans (h.of_not_left hnested)
      · intro hform
        by_cases hleft : lhs.RightNested
        · exact .left hleft
        · have hlhs : lhs.LeftDeep := not_not.mp (mt ihLeft.mpr hleft)
          have hterm : rhs.isOperation ≠ false := fun hterm => hform ⟨hlhs, hterm⟩
          exact .here (eq_true_of_ne_false hterm)

theorem Expr.leftDeep_of_not_rightNested {expr : Expr} (h : ¬ expr.RightNested) : expr.LeftDeep :=
  not_not.mp (mt rightNested_iff.mpr h)

/-- A statement without nesting is well-formed, if its name and its leaves are. -/
theorem Statement.wellFormed_of_not_rightNested {statement : Statement}
    (hparts : statement.Parts Token.IsName Expr.LeavesFit) (h : ¬ statement.RightNested) :
    statement.WellFormed := by
  cases statement with
  | declaration name => exact hparts
  | assignment name value => exact ⟨hparts.1, hparts.2, Expr.leftDeep_of_not_rightNested h⟩
  | expression value => exact ⟨hparts, Expr.leftDeep_of_not_rightNested h⟩

/-! ## The kinds of a yield -/

/-- Some token that can stand at a place. -/
def Symbol.sample : Symbol → Token
  | token kept => kept
  | mark kind => ⟨kind, "", .origin⟩

theorem spells_sample (symbols : List Symbol) : Spells symbols (symbols.map Symbol.sample) := by
  induction symbols with
  | nil => exact .nil
  | cons symbol symbols ih => cases symbol <;> exact .cons rfl ih

/-- The kinds of some words. -/
def wordKinds (words : List Word) : List TokenKind :=
  words.map Prod.fst

theorem wordKinds_append (words words' : List Word) :
    wordKinds (words ++ words') = wordKinds words ++ wordKinds words' :=
  List.map_append

theorem kindsOf_sample (symbols : List Symbol) :
    kindsOf (symbols.map Symbol.sample) = wordKinds (symbols.map Symbol.word) := by
  induction symbols with
  | nil => rfl
  | cons symbol symbols ih => cases symbol <;> exact congrArg _ ih

theorem Expr.isExpr_yield {expr : Expr} (hleaves : expr.LeavesFit) (hform : expr.LeftDeep) :
    IsExpr (wordKinds (expr.yield.map Symbol.word)) := by
  rw [← kindsOf_sample]
  exact (Expr.covers_iff.mpr ⟨⟨hleaves.kindsFit, hform⟩, spells_sample _⟩).isExpr

theorem Statement.WellFormed.isStatement_yield {statement : Statement} (h : statement.WellFormed) :
    IsStatement (wordKinds (statement.yield.map Symbol.word)) := by
  have hshaped : statement.Shaped := by
    cases statement with
    | declaration name => exact h.1
    | assignment name value => exact ⟨h.1.1, h.2.1.kindsFit, h.2.2⟩
    | expression value => exact ⟨h.1.kindsFit, h.2⟩
  rw [← kindsOf_sample]
  exact (Statement.covers_iff.mpr ⟨hshaped, spells_sample _⟩).isStatement

/-! ## Texts that break off -/

/-- **A text breaks off** at a character: in front of it the text is written in words, and with some more words they
    would be what the rule asks for. -/
def BreaksOff (rule : List TokenKind → Prop) (c : Char) (text : List Char) : Prop :=
  ∃ words before behind rest, text = before ++ c :: behind ∧ Written words before ∧ rule (wordKinds words ++ rest)

/-- **The first place of a character** in a text. -/
structure Location.IsFirst (c : Char) (text : List Char) (location : Location) : Prop where
  /-- The location can be counted in the text. -/
  trueIn : location.TrueIn text
  /-- The character stands there. -/
  stands : text[location.start]? = some c
  /-- In front of it, the character does not stand. -/
  first : c ∉ text.take location.start

/-- What is written in words is read in these words up to a bad character behind it. -/
theorem Written.readsAs_stray {words : List Word} {before : List Char} {c : Char} (h : Written words before)
    (hc : Stray c) (behind : List Char) : ReadsAs words (some c) (before ++ c :: behind) := by
  have hbreaks : Breaks (c :: behind) := by
    rintro _ ⟨⟩
    exact ⟨hc.not_letter, hc.not_digit⟩
  induction h with
  | nil hgap => exact .blanks hgap (.stray hc)
  | @cons gap text rest kind words hgap hlexeme hclosed _ ih =>
      rw [← List.append_nil rest] at hclosed
      rw [List.append_assoc, List.append_assoc]
      exact .blanks hgap (.lexeme hlexeme (hclosed.append_congr (hbreaks.closed kind)) ih)

namespace BreaksOff

variable {rule rule' : List TokenKind → Prop} {c : Char} {text whole : List Char}

/-- **Inside of a longer text.** If words can be written in front, and make a row of another rule together with
    what the first rule asks for, then the longer text breaks off at the same place. -/
theorem within (words : List Word) (more : List TokenKind) {front back : List Char} (h : BreaksOff rule c text)
    (hwhole : whole = front ++ text ++ back)
    (hfront : ∀ {inner : List Word} {before : List Char}, Written inner before →
      Written (words ++ inner) (front ++ before))
    (hrule : ∀ {kinds : List TokenKind}, rule kinds → rule' (wordKinds words ++ kinds ++ more)) :
    BreaksOff rule' c whole := by
  obtain ⟨inner, before, behind, rest, rfl, hwritten, hkinds⟩ := h
  refine ⟨words ++ inner, front ++ before, behind ++ back, rest ++ more, ?_, hfront hwritten, ?_⟩
  · rw [hwhole]
    simp
  · have hlong := hrule hkinds
    simpa [wordKinds] using hlong

/-- **The parser complains about the character** at which the text of a module breaks off, and it is the first of its
    sort in the text. What was read in front of it could have been the beginning of a module. -/
theorem parse {source : String} (h : BreaksOff Sentence c source.toList) (hc : Stray c) :
    ∃ location, parse source = .error (.lexical ⟨c, location⟩) ∧ location.IsFirst c source.toList := by
  obtain ⟨words, before, behind, rest, htext, hwritten, hsentence⟩ := h
  have hreads : ReadsAs words (some c) source.toList := by
    rw [htext]
    exact hwritten.readsAs_stray hc behind
  have hstray : (TokenStream.ofSource source).stray? = some c := (hreads.ofCursor_eq .origin).2
  have hviable : Viable (kindsOf (TokenStream.ofSource source).all) := by
    rw [kindsOf_eq_words, hreads.words_all, endingWords, List.append_nil]
    exact ⟨rest, hsentence⟩
  cases hending : (TokenStream.ofSource source).ending with
  | ok last =>
      rw [TokenStream.stray?, hending] at hstray
      cases hstray
  | error failure =>
      rw [TokenStream.stray?, hending] at hstray
      obtain rfl : failure.character = c := Option.some.inj hstray
      have hfirst := LexError.atFirstStray_of_ending hending
      refine ⟨failure.location, parse_of_viable hending hviable, hfirst.location, hfirst.stands, ?_⟩
      intro hmem
      exact hfirst.first _ hmem hc

end BreaksOff

/-! ## Nested trees -/

/-- **Expressions.** If the nesting is on the left, the text breaks off there. Else the left operand is printed as a
    chain, and the right one is the first to be printed in parentheses. -/
theorem breaksOff_expr {expr : Expr} (hleaves : expr.LeavesFit) (h : expr.RightNested) :
    BreaksOff IsExpr '(' expr.text.toList := by
  induction expr with
  | literal => cases h
  | reference => cases h
  | operation operator lhs rhs ihLeft _ =>
      by_cases hleft : lhs.RightNested
      · have htext : (Expr.operation operator lhs rhs).text.toList = [] ++ lhs.text.toList ++
            (' ' :: operator.symbol.toList ++
              ' ' :: (if rhs.isOperation then "(" ++ rhs.text ++ ")" else rhs.text).toList) := by
          simp [Expr.text]
        refine (ihLeft hleaves.1 hleft).within [] [] htext id ?_
        intro kinds hkinds
        simpa [wordKinds] using hkinds
      · have hform := Expr.leftDeep_of_not_rightNested hleft
        have hnone : Written [] [] := .nil (List.forall_mem_nil _)
        have hmark := written_operator operator hnone
        have hwritten := written_expr hleaves.1 hform hmark (.blank rfl _)
        refine ⟨_, _, rhs.text.toList ++ [')'], [.number], ?_, hwritten, ?_⟩
        · simp [Expr.text, h.of_not_left hleft]
        · -- a number in place of the parenthesis would complete the chain
          rw [wordKinds_append, List.append_assoc]
          exact (Expr.isExpr_yield hleaves.1 hform).snoc operator.isOperator .number

/-- **Statements.** -/
theorem breaksOff_statement {statement : Statement} (hparts : statement.Parts Token.IsName Expr.LeavesFit)
    (h : statement.RightNested) : BreaksOff IsStatement '(' statement.render.toList := by
  cases statement with
  | declaration name => cases h
  | assignment name value =>
      obtain ⟨hname, hleaves⟩ := hparts
      have htext : (Statement.assignment name value).render.toList =
          (name.lexeme.toList ++ [' ', '=', ' ']) ++ value.text.toList ++ [] := by
        simp [Statement.render, Expr.render_eq_text]
      have hkind : name.kind = .identifier := hname.1
      refine (breaksOff_expr hleaves h).within [(Symbol.token name).word, (Symbol.mark .equals).word] [] htext ?_ ?_
      · intro inner before hinner
        have hmark := Written.mark (c := '=') rfl (hinner.blank (c := ' ') rfl)
        have hwritten := (hmark.blank (c := ' ') rfl).name hname (.blank rfl _)
        simpa using hwritten
      · intro kinds hkinds
        have hstatement := IsStatement.assignment hkinds
        simpa [wordKinds, Symbol.word, Token.word, hkind] using hstatement
  | expression value =>
      have htext : (Statement.expression value).render.toList = [] ++ value.text.toList ++ [] := by
        simp [Statement.render, Expr.render_eq_text]
      refine (breaksOff_expr hparts h).within [] [] htext id ?_
      intro kinds hkinds
      simpa [wordKinds] using IsStatement.expression hkinds

/-- The text of the statements of a module, each on a line of its own. -/
def linesText (statements : List Statement) : List Char :=
  (String.join (statements.map fun statement => Program.indentation 1 ++ statement.render ++ ";\n")).toList

theorem linesText_cons (statement : Statement) (statements : List Statement) :
    linesText (statement :: statements) =
      (Program.indentation 1).toList ++ statement.render.toList ++ ';' :: '\n' :: linesText statements := by
  simp [linesText, String.join_cons]

/-- **Lines.** The statements in front of the first nested one are printed as they are read. -/
theorem breaksOff_statements {statements : List Statement}
    (hparts : ∀ statement ∈ statements, statement.Parts Token.IsName Expr.LeavesFit)
    (h : ∃ statement ∈ statements, statement.RightNested) :
    BreaksOff IsBody '(' (linesText statements) := by
  induction statements with
  | nil =>
      obtain ⟨_, hmem, _⟩ := h
      cases hmem
  | cons statement statements ih =>
      obtain ⟨hfirst, hrest⟩ := List.forall_mem_cons.mp hparts
      by_cases hnested : statement.RightNested
      · refine (breaksOff_statement hfirst hnested).within [] [.semicolon] (linesText_cons statement statements) ?_ ?_
        · intro inner before hinner
          exact hinner.blanks blanks_indentation
        · intro kinds hkinds
          exact .cons hkinds .nil
      · -- the nested statement is one of those behind this line
        have hbehind : ∃ statement ∈ statements, statement.RightNested := by
          obtain ⟨other, hmem, hother⟩ := h
          rcases List.mem_cons.mp hmem with rfl | hmem
          · exact absurd hother hnested
          · exact ⟨other, hmem, hother⟩
        have hwellFormed := Statement.wellFormed_of_not_rightNested hfirst hnested
        have htext : linesText (statement :: statements) =
            ((Program.indentation 1).toList ++ (statement.render.toList ++ [';', '\n'])) ++
              linesText statements ++ [] := by
          simp [linesText_cons]
        refine (ih hrest hbehind).within (statement.yield.map Symbol.word ++ [(Symbol.mark .semicolon).word]) []
          htext ?_ ?_
        · intro inner before hinner
          have hsemicolon := Written.mark (c := ';') rfl (hinner.blank (c := '\n') rfl)
          have hline := written_statement hwellFormed hsemicolon (.mark rfl _)
          simpa using hline.blanks blanks_indentation
        · intro kinds hkinds
          have hbody := IsBody.cons hwellFormed.isStatement_yield hkinds
          simpa [wordKinds, Symbol.word] using hbody

/-- **Modules.** -/
theorem breaksOff_render {m : Module} (hparts : m.Parts Token.IsName Expr.LeavesFit) (h : m.RightNested) :
    BreaksOff Sentence '(' m.render.toList := by
  obtain ⟨hname, hstatements⟩ := hparts
  have htext : m.render.toList =
      (TokenKind.moduleKeyword.spelling ++ ' ' :: (m.name.toList ++ [' ', '\x7b', '\n'])) ++
        linesText m.statements.items ++ ['\x7d'] := by
    simp [Module.render, TokenKind.spelling, Program.renderAt, linesText, Module.statements]
  have hkind : m.identifier.kind = .identifier := hname.1
  refine (breaksOff_statements hstatements h).within
    [(Symbol.mark .moduleKeyword).word, (Symbol.token m.identifier).word, (Symbol.mark .leftBrace).word]
    [.rightBrace, .eof] htext ?_ ?_
  · intro inner before hinner
    have hopening := Written.mark (c := '\x7b') rfl (hinner.blank (c := '\n') rfl)
    have hheader := (hopening.blank (c := ' ') rfl).name hname (.blank rfl _)
    have hmodule := @Written.keyword _ _ .moduleKeyword rfl (List.cons_ne_nil _ _) rfl hheader
    simpa [Module.name] using hmodule
  · intro kinds hkinds
    have hsentence := Sentence.ofBody hkinds
    simpa [wordKinds, Symbol.word, Token.word, hkind] using hsentence

/-- A parenthesis begins no lexeme. -/
theorem stray_parenthesis : Stray '(' := by
  refine ⟨?_, rfl, ?_, ?_⟩ <;> decide +kernel

/-- **A nested tree is never read as another one.** If the names and the leaves of a module are well-formed, and
    somewhere in it an operation is the right operand of another, then its printed text is rejected, and the reason is
    its first opening parenthesis: neither is there a syntax error before, nor is there a module in the text. -/
theorem parse_render_rightNested {m : Module} (hparts : m.Parts Token.IsName Expr.LeavesFit)
    (hnested : m.RightNested) :
    ∃ location, parse m.render = .error (.lexical ⟨'(', location⟩) ∧ location.IsFirst '(' m.render.toList :=
  (breaksOff_render hparts hnested).parse stray_parenthesis

/-- The nested operation is in the second statement, and there is a chain on its left. -/
theorem parse_render_rightNested_behind_chain :
    let value : Expr := .operation .sub
      (.operation .add (.literal ⟨.number, "1", .origin⟩) (.reference ⟨.identifier, "x", .origin⟩))
      (.operation .sub (.reference ⟨.identifier, "x", .origin⟩) (.literal ⟨.number, "2", .origin⟩))
    let m : Module := ⟨⟨.identifier, "m", .origin⟩,
      ⟨.ofList [.declaration ⟨.identifier, "x", .origin⟩, .assignment ⟨.identifier, "x", .origin⟩ value]⟩⟩
    m.Parts Token.IsName Expr.LeavesFit ∧ m.RightNested ∧
      m.render = "module m \x7b\n  var x;\n  x = 1 + x - (x - 2);\n\x7d" ∧
      ∃ location, parse m.render = .error (.lexical ⟨'(', location⟩) ∧ location.IsFirst '(' m.render.toList := by
  intro value m
  have hname : Token.IsName ⟨.identifier, "m", .origin⟩ :=
    Token.isName_of_letters rfl (by decide) (by decide) (by decide) .origin
  have hx : Token.IsName ⟨.identifier, "x", .origin⟩ :=
    Token.isName_of_letters rfl (by decide) (by decide) (by decide) .origin
  have hone : Token.IsNumber ⟨.number, "1", .origin⟩ := Token.isNumber_of_digits rfl (by decide) .origin
  have htwo : Token.IsNumber ⟨.number, "2", .origin⟩ := Token.isNumber_of_digits rfl (by decide) .origin
  have hvalue : value.LeavesFit := ⟨⟨hone, hx⟩, hx, htwo⟩
  have hstatements : ∀ statement ∈ m.statements.items, statement.Parts Token.IsName Expr.LeavesFit :=
    List.forall_mem_cons.mpr ⟨hx, List.forall_mem_singleton.mpr ⟨hx, hvalue⟩⟩
  have hparts : m.Parts Token.IsName Expr.LeavesFit := ⟨hname, hstatements⟩
  have hnested : m.RightNested := ⟨_, List.mem_cons_of_mem _ List.mem_cons_self, .here rfl⟩
  exact ⟨hparts, hnested, by decide +kernel, parse_render_rightNested hparts hnested⟩

end ModuleLang
