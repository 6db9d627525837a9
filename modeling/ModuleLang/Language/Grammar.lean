import ModuleLang.Token.Kind

/-!
# `Language.Grammar` — the sentences of the language

The grammar as a set of rows of token kinds, said without parsing one:

    Module     ::=  module id { (Statement ;)* } eof
    Statement  ::=  var id  |  id = Expr  |  Expr
    Expr       ::=  Term ((+ | -) Term)*
    Term       ::=  number  |  id

## Contents
- **One inductive predicate for each rule**, `IsTerm` up to `Sentence`.
- **`BeforeStatement`**: the rows that end where a statement can begin.
- **`Viable`**: the rows that some sentence begins with. A row that is not viable cannot be completed.
-/

namespace ModuleLang.Grammar

/-- The kinds of terms. -/
inductive IsTerm : TokenKind → Prop where
  | number : IsTerm .number
  | identifier : IsTerm .identifier

/-- The kinds of operators. -/
inductive IsOperator : TokenKind → Prop where
  | plus : IsOperator .plus
  | minus : IsOperator .minus

/-- Rows of operators, each with a term behind it. -/
inductive IsTail : List TokenKind → Prop where
  | nil : IsTail []
  | cons {operator term : TokenKind} {rest : List TokenKind} :
      IsOperator operator → IsTerm term → IsTail rest → IsTail (operator :: term :: rest)

/-- Expressions: a term and a tail. -/
inductive IsExpr : List TokenKind → Prop where
  | chain {term : TokenKind} {tail : List TokenKind} :
      IsTerm term → IsTail tail → IsExpr (term :: tail)

/-- Statements, without a semicolon. -/
inductive IsStatement : List TokenKind → Prop where
  | declaration : IsStatement [.varKeyword, .identifier]
  | assignment {value : List TokenKind} :
      IsExpr value → IsStatement (.identifier :: .equals :: value)
  | expression {value : List TokenKind} : IsExpr value → IsStatement value

/-- Rows of statements, each with a semicolon behind it. -/
inductive IsBody : List TokenKind → Prop where
  | nil : IsBody []
  | cons {statement rest : List TokenKind} :
      IsStatement statement → IsBody rest → IsBody (statement ++ .semicolon :: rest)

/-- Modules, up to the end of the source. -/
inductive Sentence : List TokenKind → Prop where
  | ofBody {body : List TokenKind} : IsBody body →
      Sentence (.moduleKeyword :: .identifier :: .leftBrace :: (body ++ [.rightBrace, .eof]))

/-- Rows that a statement can follow: the head of a module, and whole statements. -/
inductive BeforeStatement : List TokenKind → Prop where
  | ofBody {body : List TokenKind} : IsBody body →
      BeforeStatement (.moduleKeyword :: .identifier :: .leftBrace :: body)

/-- A row that some sentence begins with. -/
def Viable (kinds : List TokenKind) : Prop :=
  ∃ rest, Sentence (kinds ++ rest)

end ModuleLang.Grammar
