import ModuleLang.Tree.Expr

/-!
# `Proofs.Tree.Spine` — an expression is written operand by operand

The text of an expression is written by a loop. It goes down the left operands to the first leaf, and on the way back
it writes each operator and its right operand. The recursive rule says the same more directly: the left operand is
written as it is, then the operator, then the right operand, in parentheses if it is an operation.

## Contents
- **Going down** (`Expr.rebuild_spine`): the leaf at the end of the way and the operators on it are a form of the
  expression that it began with.
- **Going back up** (`Expr.renderBehind_eq`): what each round has written ends with the text of the operand that the
  round has come back to.
- **`Expr.render_eq_text`**, and **`Expr.render_iff_operands`**: the recursive rule has the loop as its only solution.
-/

namespace ModuleLang

namespace Expr

/-! ## Going down -/

/-- The expression that begins with `first` and goes on with operators and right operands. -/
def rebuild (first : Expr) (behind : List (Operator × Expr)) : Expr :=
  behind.foldl (fun lhs right => operation right.1 lhs right.2) first

/-- **The way down loses nothing.** The leaf at its end, with the operators on the way behind it, is the expression
    itself, with what was to stand behind that. -/
theorem rebuild_spine (expr : Expr) (behind : List (Operator × Expr)) :
    rebuild (expr.spine behind).1 (expr.spine behind).2 = rebuild expr behind := by
  induction expr generalizing behind with
  | literal => rfl
  | reference => rfl
  | operation operator lhs rhs ihLeft _ =>
      rw [spine, ihLeft]
      rfl

/-- The way down ends at a leaf, whose text is its lexeme. -/
theorem label_spine (expr : Expr) (behind : List (Operator × Expr)) :
    (expr.spine behind).1.label = (expr.spine behind).1.text := by
  induction expr generalizing behind with
  | literal => rfl
  | reference => rfl
  | operation operator lhs rhs ihLeft _ => exact ihLeft _

/-! ## Going back up -/

mutual

/-- **The loop writes the text** of an expression. Right operands are written by a loop of their own, so the induction
    is on what is still to be written, and not on the expression. -/
theorem renderOnto_eq (written : String) (expr : Expr) : expr.renderOnto written = written ++ expr.text := by
  rw [renderOnto, label_spine, renderBehind_eq, rebuild_spine]
  rfl
termination_by expr.size
decreasing_by exact workBehind_lt_size expr

/-- **The invariant of the loop.** If the text of an operand is written, then the rounds that are left write the text
    of the expression that the operand begins. -/
theorem renderBehind_eq (written : String) (first : Expr) (behind : List (Operator × Expr)) :
    renderBehind (written ++ first.text) behind = written ++ (rebuild first behind).text := by
  match behind with
  | [] =>
      rw [renderBehind]
      rfl
  | (operator, rhs) :: behind =>
      -- one round makes the text of the operand into that of the operation
      have hround : (if rhs.isOperation then
            rhs.renderOnto (written ++ first.text ++ " " ++ operator.symbol ++ " " ++ "(") ++ ")"
          else rhs.renderOnto (written ++ first.text ++ " " ++ operator.symbol ++ " ")) =
          written ++ (operation operator first rhs).text := by
        rw [renderOnto_eq, renderOnto_eq, text]
        split
        · simp only [String.append_assoc]
        · simp only [String.append_assoc]
      rw [renderBehind, hround]
      exact renderBehind_eq written (operation operator first rhs) behind
termination_by workBehind behind
decreasing_by all_goals simp only [workBehind]; omega

end

theorem render_eq_text (expr : Expr) : expr.render = expr.text := by
  rw [render, renderOnto_eq, String.empty_append]

/-! ## Operand by operand -/

/-- **The recursive rule.** A leaf is written as its lexeme. An operation is written as its left operand without
    parentheses, the operator between blanks, and its right operand, which is in parentheses if it is an operation. -/
def WritesOperands (written : Expr → String) : Prop :=
  (∀ value, written (literal value) = value.lexeme) ∧
  (∀ variableName, written (reference variableName) = variableName.lexeme) ∧
  ∀ operator lhs rhs, written (operation operator lhs rhs) =
    written lhs ++ " " ++ operator.symbol ++ " " ++
      match rhs with
      | literal _ | reference _ => written rhs
      | operation .. => "(" ++ written rhs ++ ")"

theorem writesOperands_text : WritesOperands text := by
  refine ⟨fun _ => rfl, fun _ => rfl, fun operator lhs rhs => ?_⟩
  cases rhs with
  | literal => rfl
  | reference => rfl
  | operation => rfl

/-- The rule leaves no choice. -/
theorem WritesOperands.eq_text {written : Expr → String} (h : WritesOperands written) (expr : Expr) :
    written expr = expr.text := by
  obtain ⟨hliteral, hreference, hoperation⟩ := h
  induction expr with
  | literal value => exact hliteral value
  | reference variableName => exact hreference variableName
  | operation operator lhs rhs ihLeft ihRight =>
      rw [hoperation, ihLeft, ihRight]
      exact (writesOperands_text.2.2 operator lhs rhs).symm

/-- **Written operand by operand.** The loop that writes expressions follows the recursive rule, for expressions of
    any leaves, form and depth, and it is the only function that does. -/
theorem render_iff_operands (written : Expr → String) : written = render ↔ WritesOperands written := by
  have hrender : render = text := funext render_eq_text
  rw [hrender]
  constructor
  · rintro rfl
    exact writesOperands_text
  · intro h
    exact funext h.eq_text

/-- Two operations on the right, within one on the left. -/
example : render (operation .add
    (operation .sub (reference ⟨.identifier, "a", .origin⟩)
      (operation .add (literal ⟨.number, "1", .origin⟩)
        (operation .sub (literal ⟨.number, "2", .origin⟩) (reference ⟨.identifier, "b", .origin⟩))))
    (reference ⟨.identifier, "c", .origin⟩)) = "a - (1 + (2 - b)) + c" := by
  decide +kernel

end Expr

end ModuleLang
