import ModuleLang.Tree.Module

/-!
# `Tree.Yield` — the row of tokens that a tree stands for

A tree keeps the tokens of names and terms and leaves out the others, which follow from its form. Its
yield is the whole row again: a kept token as it is, and any other by its kind.

## Contents
- **`Symbol`** and `Symbol.Matches`: what one place of the row admits.
- **`Expr.yield`** up to **`Module.yield`**.
- **`Spells`**: a row of tokens has the form that a row of symbols asks for.
-/

namespace ModuleLang

/-- What stands at one place of a row of tokens. -/
inductive Symbol where
  /-- This very token. -/
  | token (token : Token)
  /-- Some token of this kind. -/
  | mark (kind : TokenKind)

/-- Whether a token can stand at a place. -/
def Symbol.Matches : Symbol → Token → Prop
  | token kept, found => found = kept
  | mark kind, found => found.kind = kind

/-- Whether the tokens of a row can stand at the places, one at each. -/
inductive Spells : List Symbol → List Token → Prop where
  | nil : Spells [] []
  | cons {symbol : Symbol} {token : Token} {symbols : List Symbol} {tokens : List Token} :
      symbol.Matches token → Spells symbols tokens → Spells (symbol :: symbols) (token :: tokens)

/-- The kind of an operator's mark. -/
def Operator.kind : Operator → TokenKind
  | add => .plus
  | sub => .minus

/-- The row of an expression: its leaves, with the operators between them. -/
def Expr.yield : Expr → List Symbol
  | literal value => [.token value]
  | reference variableName => [.token variableName]
  | operation operator lhs rhs => lhs.yield ++ .mark operator.kind :: rhs.yield

/-- The row of a statement, without a semicolon. -/
def Statement.yield : Statement → List Symbol
  | declaration name => [.mark .varKeyword, .token name]
  | assignment name value => .token name :: .mark .equals :: value.yield
  | expression value => value.yield

/-- The row of a list of statements, with a semicolon behind each. -/
def Statements.yield (statements : Statements) : List Symbol :=
  statements.items.flatMap fun statement => statement.yield ++ [.mark .semicolon]

/-- The row of a module, up to the end of the source. -/
def Module.yield (m : Module) : List Symbol :=
  [.mark .moduleKeyword, .token m.identifier, .mark .leftBrace] ++ m.statements.yield
    ++ [.mark .rightBrace, .mark .eof]

end ModuleLang
