import ModuleLang.Token.Cursor

/-!
# `Language.Lexical` — the lexical rules, and layout

What the tokens of a source are, said without reading it: a source is a row of lexemes with blanks
before, between and behind them, and two lexemes that would read as one have at least one blank between
them.

The blanks part the lexemes. Beyond that they have no meaning: how many there are, which they are, and whether there are
any next to a mark or at the ends of the text, is the layout of the text.

## Contents
- **`Lexeme`**: the spellings of each kind.
- **`Joins`**: the kinds whose lexemes run together if nothing stands between them.
- **`Tokenization`**: a source as blanks and a row of lexemes.
- **`Stray`**: a character that no lexeme begins with, and that is not blank either.
- **`LayoutEdit`**: one change of the layout. A text that differs from another one in its layout is reached from
  it by such edits, one after the other.
-/

namespace ModuleLang

open Unicode (isWhiteSpace)

/-! ## Lexemes -/

/-- A run of blanks. -/
def Blanks (run : List Char) : Prop :=
  ∀ c ∈ run, isWhiteSpace c = true

/-- The kind of a word. -/
def TokenKind.OfWord (kind : TokenKind) (word : List Char) : Prop :=
  kind = if word = ['m', 'o', 'd', 'u', 'l', 'e'] then .moduleKeyword
    else if word = ['v', 'a', 'r'] then .varKeyword
    else .identifier

/-- The spellings of each kind of token but the end token. -/
inductive Lexeme : TokenKind → List Char → Prop where
  | semicolon : Lexeme .semicolon [';']
  | plus : Lexeme .plus ['+']
  | minus : Lexeme .minus ['-']
  | equals : Lexeme .equals ['=']
  | leftBrace : Lexeme .leftBrace ['{']
  | rightBrace : Lexeme .rightBrace ['}']
  | number {digits : List Char} : digits ≠ [] → (∀ c ∈ digits, isDigit c = true) →
      Lexeme .number digits
  | word {kind : TokenKind} {letters : List Char} : letters ≠ [] →
      (∀ c ∈ letters, isWordCharacter c = true) → kind.OfWord letters → Lexeme kind letters

/-- Whether tokens of this kind are words. -/
def TokenKind.isWord : TokenKind → Bool
  | .identifier | .moduleKeyword | .varKeyword => true
  | _ => false

/-- Lexemes of these two kinds read as one if nothing stands between them: two words, or two numbers. -/
def Joins (left right : TokenKind) : Prop :=
  (left.isWord ∧ right.isWord) ∨ (left = .number ∧ right = .number)

/-- A lexeme, and the blanks behind it. -/
structure Piece where
  /-- The kind of the lexeme. -/
  kind : TokenKind
  /-- The characters of the lexeme. -/
  text : List Char
  /-- The blanks between the lexeme and the next one, or the end. -/
  gap : List Char

/-- No two lexemes run together. -/
def Separated : List Piece → Prop
  | left :: right :: rest => (Joins left.kind right.kind → left.gap ≠ []) ∧ Separated (right :: rest)
  | _ => True

/-- A source is the blanks in `lead` and the row of `pieces`. -/
structure Tokenization (source lead : List Char) (pieces : List Piece) : Prop where
  /-- The blanks and lexemes, in their order, are the whole source. -/
  source_eq : source = lead ++ pieces.flatMap fun piece => piece.text ++ piece.gap
  /-- What stands in front of the first lexeme is blank. -/
  lead_blank : Blanks lead
  /-- Every lexeme is a spelling of its kind. -/
  lexeme : ∀ piece ∈ pieces, Lexeme piece.kind piece.text
  /-- What stands behind a lexeme is blank. -/
  gap_blank : ∀ piece ∈ pieces, Blanks piece.gap
  /-- No two lexemes run together. -/
  separated : Separated pieces

/-! ## Layout -/

/-- A character that is a lexeme by itself, whatever stands next to it. -/
def IsMark (c : Char) : Prop :=
  ∃ kind, TokenKind.punctuation? c = some kind

/-- A character that no lexeme begins with, and that is not blank. -/
structure Stray (c : Char) : Prop where
  /-- The character is not skipped. -/
  not_blank : isWhiteSpace c = false
  /-- The character is no mark. -/
  not_mark : TokenKind.punctuation? c = none
  /-- The character does not belong to a number. -/
  not_digit : isDigit c = false
  /-- The character does not belong to a word. -/
  not_letter : isWordCharacter c = false

/-- **One change of the layout.** Where there are blanks, there are other blanks afterwards. Blanks may also come or
    go, but only where nothing can run together: at the ends of the text and next to a mark. -/
inductive LayoutEdit : List Char → List Char → Prop where
  /-- Blanks become other blanks, of any number but none. -/
  | respace {before gap gap' after : List Char} : Blanks gap → gap ≠ [] → Blanks gap' → gap' ≠ [] →
      LayoutEdit (before ++ gap ++ after) (before ++ gap' ++ after)
  /-- Blanks in front of the text become any others. -/
  | lead {gap gap' text : List Char} : Blanks gap → Blanks gap' → LayoutEdit (gap ++ text) (gap' ++ text)
  /-- Blanks behind the text become any others. -/
  | trail {text gap gap' : List Char} : Blanks gap → Blanks gap' → LayoutEdit (text ++ gap) (text ++ gap')
  /-- Blanks in front of a mark become any others. -/
  | beforeMark {before gap gap' after : List Char} {mark : Char} : IsMark mark → Blanks gap → Blanks gap' →
      LayoutEdit (before ++ gap ++ mark :: after) (before ++ gap' ++ mark :: after)
  /-- Blanks behind a mark become any others. -/
  | behindMark {before gap gap' after : List Char} {mark : Char} : IsMark mark → Blanks gap → Blanks gap' →
      LayoutEdit (before ++ mark :: (gap ++ after)) (before ++ mark :: (gap' ++ after))

end ModuleLang
