import ModuleLang.Proofs.Tree.Identity

/-!
# `Proofs.Tree.Construction` — lists of statements, however they were made

A list of statements keeps two things: its statements, which a walk visits, and their number. A step makes the next
list from the one before it. The lists behave as plain lists do, to which the same steps are done, and the number that
they keep is always the right one.

## Contents
- **Walks** (`Walk.visited_eq`): a walk visits all statements that are ahead.
- **Steps** (`Statements.Step`, `Step.apply`) and **what they do to plain lists** (`Step.applyPlain`): one step
  (`items_apply`, `Built.apply`), and from it any number of steps (`items_afterSteps`, `Built.afterSteps`).
- **What a made list tells of itself** (`Built.length_eq`, `Built.isEmpty_iff`, `Statements.first?_eq`).
- **`Statements.construction_faithful`**: after any steps, from any list that was made before.
-/

namespace ModuleLang

/-! ## Walks -/

/-- **A walk visits** all statements that are ahead, in their order. -/
theorem Walk.visited_eq (walk : Walk) : walk.visited = walk.ahead := by
  obtain ⟨ahead⟩ := walk
  induction ahead with
  | nil =>
      unfold visited
      rfl
  | cons statement ahead ih =>
      unfold visited
      exact congrArg (statement :: ·) ih

namespace Statements

theorem visited_walk (statements : Statements) : statements.walk.visited = statements.items :=
  statements.walk.visited_eq

/-! ## Steps -/

/-- A step of making a list, which begins with the list that was made before. -/
inductive Step where
  /-- Begin again, without statements. -/
  | clear
  /-- Put a statement in front. -/
  | cons (statement : Statement)
  /-- Begin again, with these statements. -/
  | collect (statements : List Statement)

/-- The list behind a step. -/
def Step.apply : Step → Statements → Statements
  | clear, _ => .empty
  | cons statement, rest => .cons statement rest
  | collect statements, _ => .ofList statements

/-- What the step does to a plain list. -/
def Step.applyPlain : Step → List Statement → List Statement
  | clear, _ => []
  | cons statement, rest => statement :: rest
  | collect statements, _ => statements

/-- The list behind a number of steps. -/
def afterSteps (steps : List Step) (start : Statements) : Statements :=
  steps.foldl (fun list step => step.apply list) start

/-- The plain list behind a number of steps. -/
def afterStepsPlain (steps : List Step) (start : List Statement) : List Statement :=
  steps.foldl (fun list step => step.applyPlain list) start

/-- **One step** does to the statements of a list what it does to a plain list. -/
theorem items_apply (step : Step) (list : Statements) : (step.apply list).items = step.applyPlain list.items := by
  cases step with
  | clear => rfl
  | cons statement => rfl
  | collect statements => exact items_ofList statements

/-- One step makes a list that can be made. -/
theorem Built.apply {list : Statements} (h : list.Built) (step : Step) : (step.apply list).Built := by
  cases step with
  | clear => exact .empty
  | cons statement => exact .cons statement h
  | collect statements => exact .ofList statements

/-- **Any number of steps** do to the statements of a list what they do to a plain list. -/
theorem items_afterSteps (steps : List Step) (start : Statements) :
    (afterSteps steps start).items = afterStepsPlain steps start.items := by
  induction steps generalizing start with
  | nil => rfl
  | cons step steps ih =>
      show (afterSteps steps (step.apply start)).items = afterStepsPlain steps (step.applyPlain start.items)
      rw [ih, items_apply]

/-- Any number of steps make a list that can be made. -/
theorem Built.afterSteps {start : Statements} (h : start.Built) (steps : List Step) :
    (afterSteps steps start).Built := by
  induction steps generalizing start with
  | nil => exact h
  | cons step steps ih => exact ih (h.apply step)

/-! ## What a made list tells of itself -/

/-- **The length** of a list that can be made is the number of its statements. -/
theorem Built.length_eq {list : Statements} (h : list.Built) : list.length = list.items.length :=
  built_iff_counted.mp h

/-- **Emptiness** is told by the statements, and not by the length. In a list that can be made they agree. -/
theorem Built.isEmpty_iff {list : Statements} (h : list.Built) : list.isEmpty = true ↔ list.length = 0 := by
  rw [h.length_eq, isEmpty, List.isEmpty_iff, List.length_eq_zero_iff]

/-- **The first statement** is the one that a walk comes to first. -/
theorem first?_eq (list : Statements) : list.first? = list.walk.next?.map Prod.fst := by
  obtain ⟨items, length⟩ := list
  cases items with
  | nil => rfl
  | cons statement items => rfl

/-! ## Any construction -/

/-- **Lists behave as plain lists, whatever was done to make them.** After any steps, from any list that was made
    before, a walk visits the statements of the plain list to which the same steps were done. The length is the number
    of statements that are kept, and of those that are visited. The list is empty if and only if its length is zero,
    and its first statement is the first that is visited. With one more statement in front, that statement is visited
    and then the others; and statements that are collected are visited in their order. -/
theorem construction_faithful {start : Statements} (hstart : start.Built) (steps : List Step) :
    let list := afterSteps steps start
    list.walk.visited = afterStepsPlain steps start.walk.visited ∧
    list.length = list.items.length ∧ list.length = list.walk.visited.length ∧
    (list.isEmpty = true ↔ list.length = 0) ∧
    list.first? = list.walk.visited.head? ∧ list.first? = list.walk.next?.map Prod.fst ∧
    (∀ statement, (cons statement list).walk.visited = statement :: list.walk.visited) ∧
    ∀ statements, (ofList statements).walk.visited = statements := by
  intro list
  have hlist : list.Built := hstart.afterSteps steps
  have hvisited : list.walk.visited = list.items := visited_walk list
  refine ⟨?_, hlist.length_eq, ?_, hlist.isEmpty_iff, ?_, first?_eq list, fun statement => ?_, fun statements => ?_⟩
  · rw [hvisited, visited_walk]
    exact items_afterSteps steps start
  · rw [hvisited]
    exact hlist.length_eq
  · rw [hvisited]
    rfl
  · rw [hvisited]
    exact visited_walk (cons statement list)
  · rw [visited_walk]
    exact items_ofList statements

/-- A list of one statement becomes empty, is collected anew, and has a statement put in front. -/
theorem construction_faithful_made_anew :
    let x : Statement := .declaration ⟨.identifier, "x", .origin⟩
    let y : Statement := .declaration ⟨.identifier, "y", .origin⟩
    let one : Statement := .expression (.literal ⟨.number, "1", .origin⟩)
    let list := afterSteps [.clear, .collect [one, x], .cons y] (.cons x .empty)
    (cons x empty).Built ∧ list.walk.visited = [y, one, x] ∧ list.length = 3 ∧ ¬ list.isEmpty = true ∧
      list.first? = some y := by
  intro x y one list
  have hstart : (cons x empty).Built := .cons x .empty
  obtain ⟨hvisited, -, hlength, hempty, hfirst, -⟩ :=
    construction_faithful hstart [.clear, .collect [one, x], .cons y]
  have hthree : list.walk.visited = [y, one, x] := hvisited
  have hcount : list.length = 3 := by
    show (afterSteps _ _).length = 3
    rw [hlength, hvisited]
    rfl
  refine ⟨hstart, hthree, hcount, ?_, ?_⟩
  · intro h
    have hzero : list.length = 0 := hempty.mp h
    omega
  · show (afterSteps _ _).first? = some y
    rw [hfirst, hvisited]
    rfl

end Statements

end ModuleLang
