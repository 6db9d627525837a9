import ModuleLang.Token.Cursor
import ModuleLang.Tree.Module

/-!
# `Tree.WellFormed` — the trees that a source can hold

Trees can be built by hand from any tokens and in any form. A source holds only some of them: the tokens
have the kinds and the spellings of names and numbers, and no operation stands on the right of another,
because operators associate to the left and there are no parentheses.

Two sources that differ only in layout hold the same tree, except that its tokens stand elsewhere. A tree
whose locations are erased is the tree up to locations.

## Contents
- **Tokens.** `Token.IsName`, `Token.IsNumber`.
- **Leaves.** `Expr.KindsFit`: the leaves have the right kinds. `Expr.LeavesFit`: they have the right
  spellings too.
- **Form.** `Expr.LeftDeep`: no operation is the right operand of another.
- **Whole trees.** `Module.Shaped` (kinds, form, and the count of the statements) and
  `Module.WellFormed` (also spellings).
- **Up to locations.** `Token.eraseLocation`, `Expr.eraseLocations` up to `Module.eraseLocations`.
-/

namespace ModuleLang

/-! ## Tokens -/

/-- A token with the kind and the spelling of an identifier. -/
def Token.IsName (token : Token) : Prop :=
  token.kind = .identifier ∧ token.lexeme ≠ "" ∧ (∀ c ∈ token.lexeme.toList, isWordCharacter c) ∧
    token.lexeme ≠ "module" ∧ token.lexeme ≠ "var"

/-- A token with the kind and the spelling of a number. -/
def Token.IsNumber (token : Token) : Prop :=
  token.kind = .number ∧ token.lexeme ≠ "" ∧ ∀ c ∈ token.lexeme.toList, isDigit c

/-! ## Expressions -/

namespace Expr

/-- Every leaf satisfies the predicate for leaves of its sort. -/
def Leaves (number name : Token → Prop) : Expr → Prop
  | literal value => number value
  | reference variableName => name variableName
  | operation _ lhs rhs => lhs.Leaves number name ∧ rhs.Leaves number name

/-- Literals hold number tokens, and references hold identifier tokens. -/
def KindsFit : Expr → Prop :=
  Leaves (·.kind = .number) (·.kind = .identifier)

/-- Literals hold numbers, and references hold names. -/
def LeavesFit : Expr → Prop :=
  Leaves Token.IsNumber Token.IsName

/-- No operation is the right operand of another. -/
def LeftDeep : Expr → Prop
  | literal _ => True
  | reference _ => True
  | operation _ lhs rhs => lhs.LeftDeep ∧ rhs.isOperation = false

end Expr

/-! ## Statements and modules -/

/-- The declared or assigned name and the expression of a statement satisfy the given predicates. -/
def Statement.Parts (name : Token → Prop) (value : Expr → Prop) : Statement → Prop
  | declaration declared => name declared
  | assignment assigned expr => name assigned ∧ value expr
  | expression expr => value expr

/-- The name of a module satisfies the predicate for names, and so do the parts of its statements. -/
def Module.Parts (name : Token → Prop) (value : Expr → Prop) (m : Module) : Prop :=
  name m.identifier ∧ ∀ statement ∈ m.statements.items, statement.Parts name value

/-- The length that a list of statements knows is the right one, as it is in all lists that `empty`, `cons`
    and `ofList` make. -/
def Statements.Counted (statements : Statements) : Prop :=
  statements.length = statements.items.length

/-- All tokens have the kinds of their places, no operation is the right operand of another, and the
    statements are counted right. -/
def Module.Shaped (m : Module) : Prop :=
  m.Parts (·.kind = .identifier) (fun expr => expr.KindsFit ∧ expr.LeftDeep) ∧ m.statements.Counted

/-- All tokens have the kinds and the spellings of their places, no operation is the right operand of
    another, and the statements are counted right. -/
def Module.WellFormed (m : Module) : Prop :=
  m.Parts Token.IsName (fun expr => expr.LeavesFit ∧ expr.LeftDeep) ∧ m.statements.Counted

/-! ## Trees up to the locations of their tokens -/

/-- The token, as if it stood at the beginning of the source. -/
def Token.eraseLocation (token : Token) : Token :=
  { token with location := .origin }

/-- The expression without the locations of its leaves. -/
def Expr.eraseLocations : Expr → Expr
  | literal value => literal value.eraseLocation
  | reference variableName => reference variableName.eraseLocation
  | operation operator lhs rhs => operation operator lhs.eraseLocations rhs.eraseLocations

/-- The statement without the locations of its tokens. -/
def Statement.eraseLocations : Statement → Statement
  | declaration name => declaration name.eraseLocation
  | assignment name value => assignment name.eraseLocation value.eraseLocations
  | expression value => expression value.eraseLocations

/-- The statements without the locations of their tokens. -/
def Statements.eraseLocations (statements : Statements) : Statements :=
  { statements with items := statements.items.map Statement.eraseLocations }

/-- The module without the locations of its tokens. -/
def Module.eraseLocations (m : Module) : Module :=
  ⟨m.identifier.eraseLocation, ⟨m.statements.eraseLocations⟩⟩

end ModuleLang
