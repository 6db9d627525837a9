import ModuleLang.Location
import ModuleLang.Token.Kind

/-!
# `Token.Basic` — tokens

A token is a kind, the characters it was read from, and where they begin. Tokens may also be built by
hand, in any combination of the three.

## Contents
- **`Token`** and its payload: the spelling of a number or an identifier.
- **`Token.describe`**: the form without a position, `{kind: payload}`.
- **`Token.render`**: the form with the lexeme and the position.
- **`kindsOf`**: the kinds of a row of tokens, which is all that the grammar sees of it.
-/

namespace ModuleLang

/-- A token of the language. -/
structure Token where
  /-- What the token is. -/
  kind : TokenKind
  /-- The characters of the token. -/
  lexeme : String
  /-- Where its first character stands. -/
  location : Location
deriving DecidableEq, Inhabited

namespace Token

/-- The spelling of a number or an identifier. The other kinds have a fixed spelling, so their tokens
    have no payload. -/
def payload? (token : Token) : Option String :=
  if token.kind.hasPayload then some token.lexeme else none

/-- The description `{kind: payload}`, which leaves out the position. -/
def describe (token : Token) : String :=
  "\x7b" ++ token.kind.name ++ ": " ++ token.payload?.getD "" ++ "\x7d"

/-- The descriptions of a list of tokens, one on each line. -/
def describeAll (tokens : List Token) : String :=
  "\n".intercalate (tokens.map describe)

/-- The display form: long kind name, quoted lexeme (as it is, nothing is escaped) and location. -/
def render (token : Token) : String :=
  token.kind.longName ++ " \"" ++ token.lexeme ++ "\" " ++ token.location.render

instance : ToString Token := ⟨render⟩

end Token

/-- The kinds of a row of tokens. -/
def kindsOf (tokens : List Token) : List TokenKind :=
  tokens.map (·.kind)

theorem kindsOf_append (first second : List Token) :
    kindsOf (first ++ second) = kindsOf first ++ kindsOf second :=
  List.map_append

end ModuleLang
