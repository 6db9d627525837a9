import ModuleLang.Proofs.Token.Written
import ModuleLang.Proofs.Tree.Covering
import ModuleLang.Tree.WellFormed
import ModuleLang.Proofs.Tree.Spine

/-!
# `Proofs.Tree.WellFormed` — well-formed trees, and trees up to locations

Well-formed trees are the trees of parsed form whose leaves are lexemes. What covers the tokens of a source is
well-formed, and nothing about it depends on where the tokens stand.

## Contents
- **Leaves** (`Token.isName_iff`, `Token.isNumber_iff`): names and numbers in terms of the lexical rules.
- **From lexemes to well-formed trees** (`Module.Covers.wellFormed`).
- **Erasing locations** keeps form, spelling, text and covering (`Module.wellFormed_eraseLocations`,
  `Module.render_eraseLocations`, `Module.Covers.eraseLocations`).
- **From words to covered rows** (`Module.covers_of_words`): tokens with the words of a tree are covered by
  it, up to locations.
- **From covered rows to words** (`Module.Covers.words_eq`): a tree has the words of the tokens that it covers, as
  it keeps every token whose kind does not tell its spelling.
-/

namespace ModuleLang

/-! ## Leaves -/

theorem Token.isNumber_iff {token : Token} :
    token.IsNumber ↔ token.kind = .number ∧ Lexeme .number token.lexeme.toList := by
  rw [IsNumber, lexeme_number_iff, Ne, Ne, String.toList_eq_nil_iff]

theorem Token.isName_iff {token : Token} :
    token.IsName ↔ token.kind = .identifier ∧ Lexeme .identifier token.lexeme.toList := by
  have hmodule : token.lexeme = "module" ↔ token.lexeme.toList = ['m', 'o', 'd', 'u', 'l', 'e'] :=
    String.toList_inj.symm
  have hvar : token.lexeme = "var" ↔ token.lexeme.toList = ['v', 'a', 'r'] :=
    String.toList_inj.symm
  rw [IsName, lexeme_identifier_iff, Ne, Ne, Ne, Ne, Ne, Ne, String.toList_eq_nil_iff, hmodule, hvar]

/-- A word of letters that is no keyword is a name, wherever it stands. -/
theorem Token.isName_of_letters {word : String} (hletters : word.toList.all isWordCharacter = true)
    (hne : word ≠ "") (hmodule : word ≠ "module") (hvar : word ≠ "var") (location : Location) :
    IsName ⟨.identifier, word, location⟩ :=
  ⟨rfl, hne, List.all_eq_true.mp hletters, hmodule, hvar⟩

theorem Token.isNumber_of_digits {digits : String} (hdigits : digits.toList.all isDigit = true) (hne : digits ≠ "")
    (location : Location) : IsNumber ⟨.number, digits, location⟩ :=
  ⟨rfl, hne, List.all_eq_true.mp hdigits⟩

/-! ## From lexemes to well-formed trees -/

/-- A token is genuine if it is spelled as its kind asks for. -/
def Token.Genuine (token : Token) : Prop :=
  token.kind ≠ .eof → Lexeme token.kind token.lexeme.toList

theorem Token.Genuine.isNumber {token : Token} (h : token.Genuine) (hkind : token.kind = .number) :
    token.IsNumber := by
  rw [Genuine, hkind] at h
  exact isNumber_iff.mpr ⟨hkind, h nofun⟩

theorem Token.Genuine.isName {token : Token} (h : token.Genuine) (hkind : token.kind = .identifier) :
    token.IsName := by
  rw [Genuine, hkind] at h
  exact isName_iff.mpr ⟨hkind, h nofun⟩

theorem Expr.Covers.leavesFit {expr : Expr} {tokens : List Token} (h : expr.Covers tokens)
    (hgenuine : ∀ token ∈ tokens, token.Genuine) : expr.LeavesFit := by
  induction h with
  | literal hkind => exact (hgenuine _ List.mem_cons_self).isNumber hkind
  | reference hkind => exact (hgenuine _ List.mem_cons_self).isName hkind
  | operation _ _ _ ihLeft ihRight =>
      obtain ⟨hleft, hright⟩ := List.forall_mem_append.mp hgenuine
      exact ⟨ihLeft hleft, ihRight (List.forall_mem_cons.mp hright).2⟩

theorem Expr.LeavesFit.kindsFit {expr : Expr} (h : expr.LeavesFit) : expr.KindsFit := by
  induction expr with
  | literal => exact h.1
  | reference => exact h.1
  | operation operator lhs rhs ihLeft ihRight => exact ⟨ihLeft h.1, ihRight h.2⟩

/-- The form of a well-formed statement. -/
def Statement.WellFormed : Statement → Prop :=
  Statement.Parts Token.IsName fun expr => expr.LeavesFit ∧ expr.LeftDeep

theorem Statement.Covers.wellFormed {statement : Statement} {tokens : List Token}
    (h : statement.Covers tokens) (hgenuine : ∀ token ∈ tokens, token.Genuine) :
    statement.WellFormed := by
  cases h with
  | declaration _ hname => exact (hgenuine _ (by simp)).isName hname
  | assignment hname _ hvalue =>
      obtain ⟨hfirst, hrest⟩ := List.forall_mem_cons.mp hgenuine
      refine ⟨hfirst.isName hname, hvalue.leavesFit (List.forall_mem_cons.mp hrest).2, ?_⟩
      exact (Expr.covers_iff.mp hvalue).1.2
  | expression hvalue => exact ⟨hvalue.leavesFit hgenuine, (Expr.covers_iff.mp hvalue).1.2⟩

theorem CoversAll.wellFormed {statements : List Statement} {tokens : List Token}
    (h : CoversAll statements tokens) (hgenuine : ∀ token ∈ tokens, token.Genuine) :
    ∀ statement ∈ statements, statement.WellFormed := by
  induction h with
  | nil => exact nofun
  | cons hstatement _ _ ih =>
      obtain ⟨hfirst, hrest⟩ := List.forall_mem_append.mp hgenuine
      exact List.forall_mem_cons.mpr
        ⟨hstatement.wellFormed hfirst, ih (List.forall_mem_cons.mp hrest).2⟩

/-- **What covers genuine tokens is well-formed.** -/
theorem Module.Covers.wellFormed {m : Module} {tokens : List Token} (h : m.Covers tokens)
    (hgenuine : ∀ token ∈ tokens, token.Genuine) : m.WellFormed := by
  cases h with
  | ofBody _ hname _ hbody hcounted _ _ =>
      obtain ⟨-, hrest⟩ := List.forall_mem_cons.mp hgenuine
      obtain ⟨hfirst, hrest⟩ := List.forall_mem_cons.mp hrest
      obtain ⟨-, hrest⟩ := List.forall_mem_cons.mp hrest
      have hinner := (List.forall_mem_append.mp hrest).1
      exact ⟨⟨hfirst.isName hname, hbody.wellFormed hinner⟩, hcounted⟩

/-- Well-formed trees have the form of parsed ones. -/
theorem Module.WellFormed.shaped {m : Module} (h : m.WellFormed) : m.Shaped := by
  obtain ⟨⟨hname, hstatements⟩, hcounted⟩ := h
  have hvalue (expr : Expr) (h : expr.LeavesFit ∧ expr.LeftDeep) : expr.KindsFit ∧ expr.LeftDeep :=
    ⟨h.1.kindsFit, h.2⟩
  refine ⟨⟨hname.1, fun statement hmem => ?_⟩, hcounted⟩
  have hparts := hstatements statement hmem
  cases statement with
  | declaration name => exact hparts.1
  | assignment name value => exact ⟨hparts.1.1, hvalue value hparts.2⟩
  | expression value => exact hvalue value hparts

/-! ## Erasing locations -/

section Erasure

variable {number name : Token → Prop} (hnumber : ∀ token, number token.eraseLocation ↔ number token)
  (hname : ∀ token, name token.eraseLocation ↔ name token)

include hnumber hname in
theorem Expr.leaves_eraseLocations {expr : Expr} :
    expr.eraseLocations.Leaves number name ↔ expr.Leaves number name := by
  induction expr with
  | literal value => exact hnumber value
  | reference variableName => exact hname variableName
  | operation operator lhs rhs ihLeft ihRight => exact and_congr ihLeft ihRight

theorem Expr.isOperation_eraseLocations (expr : Expr) :
    expr.eraseLocations.isOperation = expr.isOperation := by
  cases expr <;> rfl

theorem Expr.leftDeep_eraseLocations {expr : Expr} : expr.eraseLocations.LeftDeep ↔ expr.LeftDeep := by
  induction expr with
  | literal => exact Iff.rfl
  | reference => exact Iff.rfl
  | operation operator lhs rhs ihLeft ihRight =>
      rw [eraseLocations, LeftDeep, LeftDeep, ihLeft, isOperation_eraseLocations]

include hname in
/-- Parts that do not depend on locations are kept. -/
theorem Module.parts_eraseLocations {value : Expr → Prop} {m : Module}
    (hvalue : ∀ expr, value expr.eraseLocations ↔ value expr) :
    m.eraseLocations.Parts name value ↔ m.Parts name value := by
  have hparts (statement : Statement) :
      statement.eraseLocations.Parts name value ↔ statement.Parts name value := by
    cases statement with
    | declaration declared => exact hname declared
    | assignment assigned expr => exact and_congr (hname assigned) (hvalue expr)
    | expression expr => exact hvalue expr
  refine and_congr (hname m.identifier) ?_
  simp only [eraseLocations, statements, Statements.eraseLocations, List.forall_mem_map, hparts]

theorem Statements.counted_eraseLocations {statements : Statements} :
    statements.eraseLocations.Counted ↔ statements.Counted := by
  rw [Counted, Counted, eraseLocations, List.length_map]

include hnumber hname in
/-- What is asked of the names and the leaves, if it does not depend on locations, is kept with the form. -/
theorem Module.form_eraseLocations {m : Module} :
    (m.eraseLocations.Parts name (fun expr => expr.Leaves number name ∧ expr.LeftDeep) ∧
        m.eraseLocations.statements.Counted) ↔
      m.Parts name (fun expr => expr.Leaves number name ∧ expr.LeftDeep) ∧ m.statements.Counted := by
  refine and_congr (parts_eraseLocations hname fun expr => ?_) Statements.counted_eraseLocations
  exact and_congr (Expr.leaves_eraseLocations hnumber hname) Expr.leftDeep_eraseLocations

end Erasure

/-- **Well-formedness** does not depend on locations. -/
theorem Module.wellFormed_eraseLocations {m : Module} : m.eraseLocations.WellFormed ↔ m.WellFormed :=
  form_eraseLocations (fun _ => Iff.rfl) fun _ => Iff.rfl

theorem Module.shaped_eraseLocations {m : Module} : m.eraseLocations.Shaped ↔ m.Shaped :=
  form_eraseLocations (fun _ => Iff.rfl) fun _ => Iff.rfl

theorem Expr.Covers.eraseLocations {expr : Expr} {tokens : List Token} (h : expr.Covers tokens) :
    expr.eraseLocations.Covers (tokens.map Token.eraseLocation) := by
  induction h with
  | literal hkind => exact .literal hkind
  | reference hkind => exact .reference hkind
  | operation _ hmark _ ihLeft ihRight =>
      rw [List.map_append]
      exact .operation ihLeft hmark ihRight

theorem Statement.Covers.eraseLocations {statement : Statement} {tokens : List Token}
    (h : statement.Covers tokens) :
    statement.eraseLocations.Covers (tokens.map Token.eraseLocation) := by
  cases h with
  | declaration hword hname => exact .declaration hword hname
  | assignment hname hmark hvalue => exact .assignment hname hmark hvalue.eraseLocations
  | expression hvalue => exact .expression hvalue.eraseLocations

theorem CoversAll.eraseLocations {statements : List Statement} {tokens : List Token}
    (h : CoversAll statements tokens) :
    CoversAll (statements.map Statement.eraseLocations) (tokens.map Token.eraseLocation) := by
  induction h with
  | nil => exact .nil
  | cons hstatement hmark _ ih =>
      rw [List.map_append]
      exact .cons hstatement.eraseLocations hmark ih

/-- **Covering** does not depend on locations, if they are erased on both sides. -/
theorem Module.Covers.eraseLocations {m : Module} {tokens : List Token} (h : m.Covers tokens) :
    m.eraseLocations.Covers (tokens.map Token.eraseLocation) := by
  cases h with
  | ofBody hword hname hopening hbody hcounted hclosing hlast =>
      simp only [List.map_cons, List.map_append, List.map_nil]
      exact .ofBody hword hname hopening hbody.eraseLocations
        (Statements.counted_eraseLocations.mpr hcounted) hclosing hlast

theorem Expr.text_eraseLocations (expr : Expr) : expr.eraseLocations.text = expr.text := by
  induction expr with
  | literal => rfl
  | reference => rfl
  | operation operator lhs rhs ihLeft ihRight =>
      rw [eraseLocations, text, text, ihLeft, ihRight, isOperation_eraseLocations]

theorem Statement.render_eraseLocations (statement : Statement) :
    statement.eraseLocations.render = statement.render := by
  cases statement with
  | declaration => rfl
  | assignment name value =>
      rw [eraseLocations, render, render, Expr.render_eq_text, Expr.render_eq_text,
        Expr.text_eraseLocations]
      rfl
  | expression value =>
      rw [eraseLocations, render, render, Expr.render_eq_text, Expr.render_eq_text,
        Expr.text_eraseLocations]

/-- **The text** of a module does not depend on locations. -/
theorem Module.render_eraseLocations (m : Module) : m.eraseLocations.render = m.render := by
  have hprogram : m.eraseLocations.program.renderAt 1 = m.program.renderAt 1 := by
    simp only [Program.renderAt, eraseLocations, statements, Statements.eraseLocations, List.map_map,
      Function.comp_def, Statement.render_eraseLocations]
  rw [render, render, hprogram]
  rfl

/-! ## From words to covered rows -/

/-- How the tokens of a kind with a fixed spelling are written. -/
def TokenKind.spelling : TokenKind → List Char
  | .moduleKeyword => ['m', 'o', 'd', 'u', 'l', 'e']
  | .varKeyword => ['v', 'a', 'r']
  | .semicolon => [';']
  | .plus => ['+']
  | .minus => ['-']
  | .equals => ['=']
  | .leftBrace => ['\x7b']
  | .rightBrace => ['\x7d']
  | .eof | .number | .identifier => []

/-- The word that a place in a row asks for. -/
def Symbol.word : Symbol → Word
  | token kept => kept.word
  | mark kind => (kind, kind.spelling)

/-- The place, up to the location of a kept token. -/
def Symbol.eraseLocation : Symbol → Symbol
  | token kept => token kept.eraseLocation
  | mark kind => mark kind

theorem Token.eraseLocation_eq_of_word {first second : Token} (h : first.word = second.word) :
    first.eraseLocation = second.eraseLocation := by
  obtain ⟨hkind, hlexeme⟩ := Prod.mk.inj h
  rw [eraseLocation, eraseLocation, hkind, String.toList_inj.mp hlexeme]

/-- Tokens that are the words that a row asks for spell the row, up to locations. -/
theorem spells_of_words {symbols : List Symbol} {tokens : List Token}
    (h : tokens.map Token.word = symbols.map Symbol.word) :
    Spells (symbols.map Symbol.eraseLocation) (tokens.map Token.eraseLocation) := by
  induction symbols generalizing tokens with
  | nil =>
      rw [List.map_eq_nil_iff.mp h]
      exact .nil
  | cons symbol symbols ih =>
      obtain ⟨token, rest, rfl, hword, hrest⟩ := List.map_eq_cons_iff.mp h
      refine .cons ?_ (ih hrest)
      cases symbol with
      | token kept => exact Token.eraseLocation_eq_of_word hword
      | mark kind => exact congrArg Prod.fst hword

theorem Expr.yield_eraseLocations (expr : Expr) :
    expr.eraseLocations.yield = expr.yield.map Symbol.eraseLocation := by
  induction expr with
  | literal => rfl
  | reference => rfl
  | operation operator lhs rhs ihLeft ihRight =>
      rw [eraseLocations, yield, yield, ihLeft, ihRight, List.map_append]
      rfl

theorem Statement.yield_eraseLocations (statement : Statement) :
    statement.eraseLocations.yield = statement.yield.map Symbol.eraseLocation := by
  cases statement with
  | declaration => rfl
  | assignment name value =>
      rw [eraseLocations, yield, yield, Expr.yield_eraseLocations]
      rfl
  | expression value => exact value.yield_eraseLocations

theorem Module.yield_eraseLocations (m : Module) :
    m.eraseLocations.yield = m.yield.map Symbol.eraseLocation := by
  have hstatements : m.eraseLocations.statements.yield = m.statements.yield.map Symbol.eraseLocation := by
    simp only [Statements.yield, eraseLocations, statements, Statements.eraseLocations,
      List.flatMap_map, List.map_flatMap, List.map_append, Statement.yield_eraseLocations]
    rfl
  rw [yield, yield, hstatements, List.map_append, List.map_append]
  rfl

/-- **Tokens with the words of a tree** are covered by the tree, up to locations. -/
theorem Module.covers_of_words {m : Module} {tokens : List Token} (hshaped : m.Shaped)
    (h : tokens.map Token.word = m.yield.map Symbol.word) :
    m.eraseLocations.Covers (tokens.map Token.eraseLocation) := by
  refine covers_iff.mpr ⟨shaped_eraseLocations.mpr hshaped, ?_⟩
  rw [yield_eraseLocations]
  exact spells_of_words h

/-! ## From covered rows to words -/

/-- A kind without a payload has one spelling. -/
theorem Lexeme.eq_spelling {kind : TokenKind} {text : List Char} (h : Lexeme kind text)
    (hfixed : kind.hasPayload = false) : text = kind.spelling := by
  cases h with
  | number => cases hfixed
  | @word _ letters _ _ hkind =>
      rw [TokenKind.OfWord] at hkind
      split at hkind
      case isTrue hmodule =>
        subst hkind
        exact hmodule
      case isFalse =>
        split at hkind
        case isTrue hvar =>
          subst hkind
          exact hvar
        case isFalse =>
          subst hkind
          cases hfixed
  | _ => rfl

/-- Whether a place asks for a token, or for a kind without a payload. -/
def Symbol.Fixed : Symbol → Prop
  | token _ => True
  | mark kind => kind.hasPayload = false

/-- The token has a spelling of its kind: it is a lexeme, or the end token, which has no characters. -/
def Token.Spelled (token : Token) : Prop :=
  Lexeme token.kind token.lexeme.toList ∨ token.word = (.eof, [])

/-- A spelled token that can stand at a place has the word that the place asks for. -/
theorem Symbol.Matches.word_eq {symbol : Symbol} {token : Token} (h : symbol.Matches token)
    (hfixed : symbol.Fixed) (hspelled : token.Spelled) : token.word = symbol.word := by
  cases symbol with
  | token kept =>
      rw [show token = kept from h]
      rfl
  | mark kind =>
      cases show token.kind = kind from h
      rcases hspelled with hlexeme | hend
      · rw [Token.word, hlexeme.eq_spelling hfixed]
        rfl
      · have hkind : token.kind = .eof := congrArg Prod.fst hend
        rw [hend, Symbol.word, hkind]
        rfl

/-- **Tokens that spell a row** are the words that the row asks for. -/
theorem Spells.words_eq {symbols : List Symbol} {tokens : List Token} (h : Spells symbols tokens)
    (hfixed : ∀ symbol ∈ symbols, symbol.Fixed) (hspelled : ∀ token ∈ tokens, token.Spelled) :
    tokens.map Token.word = symbols.map Symbol.word := by
  induction h with
  | nil => rfl
  | cons hmatches _ ih =>
      obtain ⟨hsymbol, hsymbols⟩ := List.forall_mem_cons.mp hfixed
      obtain ⟨htoken, htokens⟩ := List.forall_mem_cons.mp hspelled
      rw [List.map_cons, List.map_cons, hmatches.word_eq hsymbol htoken, ih hsymbols htokens]

theorem Expr.yield_fixed (expr : Expr) : ∀ symbol ∈ expr.yield, symbol.Fixed := by
  induction expr with
  | literal => exact List.forall_mem_singleton.mpr trivial
  | reference => exact List.forall_mem_singleton.mpr trivial
  | operation operator lhs rhs ihLeft ihRight =>
      have hmark : (Symbol.mark operator.kind).Fixed := by cases operator <;> rfl
      exact List.forall_mem_append.mpr ⟨ihLeft, List.forall_mem_cons.mpr ⟨hmark, ihRight⟩⟩

theorem Statement.yield_fixed (statement : Statement) : ∀ symbol ∈ statement.yield, symbol.Fixed := by
  cases statement with
  | declaration => exact List.forall_mem_cons.mpr ⟨rfl, List.forall_mem_singleton.mpr trivial⟩
  | assignment name value =>
      exact List.forall_mem_cons.mpr ⟨trivial, List.forall_mem_cons.mpr ⟨rfl, value.yield_fixed⟩⟩
  | expression value => exact value.yield_fixed

/-- Where a tree does not keep the token, it asks for a kind with one spelling. -/
theorem Module.yield_fixed (m : Module) : ∀ symbol ∈ m.yield, symbol.Fixed := by
  have hhead : ∀ symbol ∈ [Symbol.mark .moduleKeyword, .token m.identifier, .mark .leftBrace], symbol.Fixed := by
    simp [Symbol.Fixed, TokenKind.hasPayload]
  have hlast : ∀ symbol ∈ [Symbol.mark .rightBrace, .mark .eof], symbol.Fixed := by
    simp [Symbol.Fixed, TokenKind.hasPayload]
  have hstatements : ∀ symbol ∈ m.statements.yield, symbol.Fixed := by
    intro symbol hmem
    obtain ⟨statement, -, hmem⟩ := List.mem_flatMap.mp hmem
    rcases List.mem_append.mp hmem with hmem | hmem
    · exact statement.yield_fixed symbol hmem
    · rw [List.mem_singleton.mp hmem]
      rfl
  exact List.forall_mem_append.mpr ⟨List.forall_mem_append.mpr ⟨hhead, hstatements⟩, hlast⟩

/-- **A tree that covers tokens** has their words. -/
theorem Module.Covers.words_eq {m : Module} {tokens : List Token} (h : m.Covers tokens)
    (hspelled : ∀ token ∈ tokens, token.Spelled) : tokens.map Token.word = m.yield.map Symbol.word :=
  (covers_iff.mp h).2.words_eq m.yield_fixed hspelled

end ModuleLang
