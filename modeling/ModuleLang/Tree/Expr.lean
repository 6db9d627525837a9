import ModuleLang.Token.Basic

/-!
# `Tree.Expr` — expressions

An expression is a number, a variable that is read, or a sum or difference of two expressions. The
language has no parentheses and its operators associate to the left, so a parsed chain of operators is a
tree that is deep on the left and has single terms on the right. Printing and comparison therefore walk a
tree with loops, and a chain of any length builds up no pending calls.

## Contents
- **`Operator`**, **`Expr`** and `Expr.label`, the text at the root.
- **`Expr.render`**: the text of an expression. It is written by a loop that goes down the left operands to the
  first leaf (`Expr.spine`) and back up again (`Expr.renderBehind`). Right operands that are operations stand
  in parentheses, in a form that is for reading and not for the parser.
- **`Expr.text`**: the same text by recursion on the operands.
- **`Expr.agree`**, the `BEq` instance: comparison of two trees, with pairs of subtrees as the work list.
-/

namespace ModuleLang

/-- The operators. -/
inductive Operator where
  /-- The sum. -/
  | add
  /-- The difference. -/
  | sub
deriving DecidableEq, Inhabited

/-- How an operator is written. -/
def Operator.symbol : Operator → String
  | add => "+"
  | sub => "-"

/-- An expression. Its leaves are the tokens they were read from. -/
inductive Expr where
  /-- A number such as `42`. -/
  | literal (value : Token)
  /-- The value of a variable such as `x`. -/
  | reference (variableName : Token)
  /-- A sum or difference. -/
  | operation (operator : Operator) (lhs rhs : Expr)
deriving Inhabited

namespace Expr

/-- Whether an expression is a sum or difference, and not a single term. -/
def isOperation : Expr → Bool
  | operation .. => true
  | _ => false

/-- The number of operators and terms of an expression. -/
def size : Expr → Nat
  | literal _ | reference _ => 1
  | operation _ lhs rhs => lhs.size + rhs.size + 1

/-- The text at the root: an operator's symbol or a leaf's lexeme. -/
def label : Expr → String
  | literal value => value.lexeme
  | reference variableName => variableName.lexeme
  | operation operator _ _ => operator.symbol

/-! ## Text -/

/-- The way down the left operands: the leaf at its end, and the operators on the way with their right
    operands, the last one first, in front of `behind`. -/
def spine : Expr → List (Operator × Expr) → Expr × List (Operator × Expr)
  | operation operator lhs rhs, behind => lhs.spine ((operator, rhs) :: behind)
  | leaf, behind => (leaf, behind)

/-- The number of operators and terms on the way back up. -/
def workBehind : List (Operator × Expr) → Nat
  | [] => 0
  | (_, rhs) :: behind => rhs.size + 1 + workBehind behind

/-- All of an expression but its first leaf is behind that leaf. -/
theorem workBehind_spine (expr : Expr) (behind : List (Operator × Expr)) :
    workBehind (expr.spine behind).2 + 1 = expr.size + workBehind behind := by
  induction expr generalizing behind with
  | literal => exact Nat.add_comm _ _
  | reference => exact Nat.add_comm _ _
  | operation operator lhs rhs ihLeft _ =>
      rw [spine, ihLeft, workBehind, size]
      omega

theorem workBehind_lt_size (expr : Expr) : workBehind (expr.spine []).2 < expr.size := by
  have hwork := workBehind_spine expr []
  rw [workBehind] at hwork
  omega

mutual

/-- Writes an expression behind what is written: its first leaf, and what is behind that. -/
def renderOnto (written : String) (expr : Expr) : String :=
  renderBehind (written ++ (expr.spine []).1.label) (expr.spine []).2
termination_by expr.size
decreasing_by exact workBehind_lt_size expr

/-- Writes the operators and their right operands behind what is written. A right operand that is an operation
    stands in parentheses. -/
def renderBehind (written : String) : List (Operator × Expr) → String
  | [] => written
  | (operator, rhs) :: behind =>
      let marked := written ++ " " ++ operator.symbol ++ " "
      let right := if rhs.isOperation then rhs.renderOnto (marked ++ "(") ++ ")" else rhs.renderOnto marked
      renderBehind right behind
termination_by behind => workBehind behind
decreasing_by all_goals simp only [workBehind]; omega

end

/-- The text of an expression. -/
def render (expr : Expr) : String :=
  expr.renderOnto ""

instance : ToString Expr := ⟨render⟩

/-- The text of an expression, operand by operand: the left one as it is, and the right one in
    parentheses if it is an operation. -/
def text : Expr → String
  | literal value => value.lexeme
  | reference variableName => variableName.lexeme
  | operation operator lhs rhs =>
      lhs.text ++ " " ++ operator.symbol ++ " "
        ++ (if rhs.isOperation then "(" ++ rhs.text ++ ")" else rhs.text)

/-! ## Comparison -/

/-- The number of operators and terms in the left trees of a list of pairs. -/
def workLeft : List (Expr × Expr) → Nat
  | [] => 0
  | (tree, _) :: pending => tree.size + workLeft pending

/-- Whether each pair of trees is a pair of equal trees. -/
def agree : List (Expr × Expr) → Bool
  | [] => true
  | (operation operator lhs rhs, operation operator' lhs' rhs') :: pending =>
      operator == operator' && agree ((rhs, rhs') :: (lhs, lhs') :: pending)
  | (literal value, literal value') :: pending => value == value' && agree pending
  | (reference name, reference name') :: pending => name == name' && agree pending
  | _ => false
termination_by pairs => workLeft pairs
decreasing_by all_goals simp only [workLeft, size]; omega

instance : BEq Expr := ⟨fun a b => agree [(a, b)]⟩

end Expr

end ModuleLang
