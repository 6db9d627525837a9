/-!
# `Token.Kind` — the kinds of tokens

The language has eleven kinds of tokens: the end of the input, two kinds with a spelling of their own
(numbers and identifiers), two keywords and six punctuation marks.

## Contents
- **`TokenKind`** and its two names: the short one that messages use, and the one that tree dumps use. The short names
  tell the kinds apart (`name_injective`), and none has a colon or a line feed.
- **`TokenKind.keyword?`**, **`TokenKind.ofWord`**: which words are keywords.
- **`TokenKind.punctuation?`**: which characters are tokens by themselves.
-/

namespace ModuleLang

/-- The kind of a token. -/
inductive TokenKind where
  /-- The end of the input. -/
  | eof
  /-- A run of digits, such as `42`. -/
  | number
  /-- A word that is no keyword, such as `foo`. -/
  | identifier
  /-- The word `module`. -/
  | moduleKeyword
  /-- The word `var`. -/
  | varKeyword
  /-- The mark `;`. -/
  | semicolon
  /-- The mark `+`. -/
  | plus
  /-- The mark `-`. -/
  | minus
  /-- The mark `=`. -/
  | equals
  /-- The mark `{`. -/
  | leftBrace
  /-- The mark `}`. -/
  | rightBrace
deriving DecidableEq, Inhabited

namespace TokenKind

/-- The short name, as token descriptions and error messages write it. -/
def name : TokenKind → String
  | eof => "eof"
  | number => "number"
  | identifier => "id"
  | moduleKeyword => "module"
  | varKeyword => "var"
  | semicolon => "semicolon"
  | plus => "plus"
  | minus => "minus"
  | equals => "equals"
  | leftBrace => "lbrace"
  | rightBrace => "rbrace"

instance : ToString TokenKind := ⟨name⟩

theorem name_injective {first second : TokenKind} (h : first.name = second.name) : first = second := by
  cases first <;> cases second <;> first
    | rfl
    | exact absurd h (by decide)

theorem newline_not_mem_name (kind : TokenKind) : '\n' ∉ kind.name.toList := by
  cases kind <;> decide

theorem colon_not_mem_name (kind : TokenKind) : ':' ∉ kind.name.toList := by
  cases kind <;> decide

/-- The long name, as token displays and tree dumps write it. -/
def longName : TokenKind → String
  | eof => "Eof"
  | number => "Number"
  | identifier => "Identifier"
  | moduleKeyword => "KwModule"
  | varKeyword => "KwVar"
  | semicolon => "Semicolon"
  | plus => "Plus"
  | minus => "Minus"
  | equals => "Equal"
  | leftBrace => "LBrace"
  | rightBrace => "RBrace"

/-- The keyword that a word is, if it is one. -/
def keyword? (word : String) : Option TokenKind :=
  if word = "module" then some moduleKeyword
  else if word = "var" then some varKeyword
  else none

/-- The kind of a word: a keyword if it is one, else an identifier. -/
def ofWord (word : String) : TokenKind :=
  (keyword? word).getD identifier

/-- The punctuation mark that a character is, if it is one. -/
def punctuation? : Char → Option TokenKind
  | ';' => some semicolon
  | '+' => some plus
  | '-' => some minus
  | '=' => some equals
  | '{' => some leftBrace
  | '}' => some rightBrace
  | _ => none

/-- Whether tokens of this kind differ in spelling. Keywords, marks and the end of the input have a
    fixed one. -/
def hasPayload : TokenKind → Bool
  | number | identifier => true
  | _ => false

theorem ofWord_ne_eof (word : String) : ofWord word ≠ eof := by
  unfold ofWord keyword?
  split
  case isTrue => simp
  case isFalse => split <;> simp

theorem punctuation?_ne_eof {c : Char} : punctuation? c ≠ some eof := by
  unfold punctuation?
  split <;> simp

end TokenKind

end ModuleLang
