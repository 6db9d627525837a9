import ModuleLang.Tree.Expr

/-!
# `Tree.Statement` — statements and lists of statements

A statement declares a variable, assigns to one, or is an expression by itself. Statements come in
lists that know their length.

## Contents
- **`Statement`**, the name that it declares or assigns, and its text.
- **`Statements`**: a list of statements with its length, made by `empty`, `cons` and `ofList`, and
  compared by length first.
- **`Walk`**: a place in a list of statements, from which the statements ahead are visited one by one.
-/

namespace ModuleLang

/-- A statement. -/
inductive Statement where
  /-- A declaration such as `var x`. -/
  | declaration (name : Token)
  /-- An assignment such as `x = y + 1`. -/
  | assignment (name : Token) (value : Expr)
  /-- An expression that stands by itself. -/
  | expression (value : Expr)
deriving BEq, Inhabited

namespace Statement

/-- The name that a statement declares or assigns. -/
def name? : Statement → Option String
  | declaration name => some name.lexeme
  | assignment name _ => some name.lexeme
  | expression _ => none

/-- The text of a statement, without a semicolon. -/
def render : Statement → String
  | declaration name => "var " ++ name.lexeme
  | assignment name value => name.lexeme ++ " = " ++ value.render
  | expression value => value.render

instance : ToString Statement := ⟨render⟩

end Statement

/-! ## Lists of statements -/

/-- Statements in the order of the source, with their number. -/
structure Statements where
  /-- The statements. -/
  items : List Statement
  /-- How many there are. -/
  length : Nat
deriving Inhabited

namespace Statements

/-- No statements. -/
def empty : Statements := ⟨[], 0⟩

/-- The list with one more statement in front. -/
def cons (statement : Statement) (rest : Statements) : Statements :=
  ⟨statement :: rest.items, rest.length + 1⟩

/-- The list of the given statements, in their order. -/
def ofList (statements : List Statement) : Statements :=
  statements.foldr cons empty

/-- Whether there is no statement. -/
def isEmpty (statements : Statements) : Bool :=
  statements.items.isEmpty

/-- The first statement, if there is one. -/
def first? (statements : Statements) : Option Statement :=
  statements.items.head?

/-- Lists of different lengths differ; the statements are only compared if the lengths are the same. -/
instance : BEq Statements :=
  ⟨fun a b => a.length == b.length && a.items == b.items⟩

end Statements

/-! ## Going through a list -/

/-- A place in a list of statements. -/
structure Walk where
  /-- The statements that are still ahead. -/
  ahead : List Statement

/-- The walk that begins in front of the first statement of a list. -/
def Statements.walk (statements : Statements) : Walk :=
  ⟨statements.items⟩

namespace Walk

/-- The next statement, and the place behind it. At the end of the list there is none. -/
def next? : Walk → Option (Statement × Walk)
  | ⟨[]⟩ => none
  | ⟨statement :: ahead⟩ => some (statement, ⟨ahead⟩)

theorem length_next? {walk behind : Walk} {statement : Statement} (h : walk.next? = some (statement, behind)) :
    behind.ahead.length < walk.ahead.length := by
  unfold next? at h
  split at h
  · cases h
  · cases h
    exact Nat.lt_succ_self _

/-- The statements that a walk visits, until there is none ahead. -/
def visited (walk : Walk) : List Statement :=
  match _found : walk.next? with
  | none => []
  | some (statement, behind) => statement :: behind.visited
termination_by walk.ahead.length
decreasing_by exact length_next? _found

end Walk

end ModuleLang
