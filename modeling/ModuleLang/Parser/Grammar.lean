import ModuleLang.Parser.Basic
import ModuleLang.Tree.Module

/-!
# `Parser.Grammar` — from tokens to trees

The grammar of the language is

    Module     ::=  module id { (Statement ;)* } eof
    Statement  ::=  var id  |  id = Expr  |  Expr
    Expr       ::=  Term ((+ | -) Term)*
    Term       ::=  number  |  id

and each rule is one parser here. A parser takes exactly the tokens of its rule. To tell an assignment
from an expression takes a look at two tokens; everywhere else one is enough.

## Contents
- **Expected kinds.** `statementStart`, `expressionEnd`, `termStart`: what can come next at each place
  where a syntax error can be found.
- **Rules.** `term`, `expression`, `statement`, `statements`, `wholeModule`. Every link of an expression
  takes an operator (`link_advances`) and every statement a semicolon (`terminated_advances`), so both
  repetitions end.
- **`parse`**: the module that a source text holds, or why it holds none.
- **Steps as data.** `Parser.Request`, `Parser.Answer` and `Parser.perform`, for a parser that is driven step by
  step.
-/

namespace ModuleLang

namespace Parser

/-! ## Expected kinds -/

/-- What a statement begins with, and the brace that ends the list of statements. -/
def statementStart : List TokenKind := [.varKeyword, .identifier, .number, .rightBrace]

/-- What can follow an expression in a statement. -/
def expressionEnd : List TokenKind := [.semicolon, .plus, .minus]

/-- What a term begins with. -/
def termStart : List TokenKind := [.number, .identifier]

/-- What can follow a statement. -/
def statementEnd : Statement → List TokenKind
  | .declaration _ => [.semicolon]
  | .assignment .. | .expression _ => expressionEnd

/-! ## Rules -/

/-- A number or a variable. -/
def term : Parser Expr := do
  match ← peekKind with
  | .number => return .literal (← advance)
  | .identifier => return .reference (← advance)
  | _ => report termStart

/-- The operator that a mark stands for. -/
def operator? : TokenKind → Option Operator
  | .plus => some .add
  | .minus => some .sub
  | _ => none

/-- One link more for a chain of operators, whose part so far becomes the left operand, if an operator
    comes next. -/
def link (lhs : Expr) : Parser (Option Expr) := do
  match operator? (← peekKind) with
  | none => return none
  | some operator =>
      let _ ← advance
      return some (.operation operator lhs (← term))

theorem steady_term : Steady term := by
  refine steady_peekKind.bind fun kind => ?_
  split
  · exact steady_advance.bind fun _ => .pure _
  · exact steady_advance.bind fun _ => .pure _
  · exact steady_report _

/-- Every link takes an operator. -/
theorem link_advances : Advances link := by
  intro lhs longer reader left h
  obtain ⟨kind, seen, hpeek, hrest⟩ := bind_ok h
  cases hoperator : operator? kind with
  | none =>
      rw [hoperator] at hrest
      cases hrest
  | some operator =>
      have hinner : kind ≠ .eof := by
        rintro rfl
        cases hoperator
      rw [hoperator] at hrest
      obtain ⟨mark, behind, htake, hrest⟩ := bind_ok hrest
      obtain ⟨rhs, after, hterm, hpure⟩ := bind_ok hrest
      cases hpure
      exact Nat.lt_of_le_of_lt (steady_term _ _ _ hterm) (size_advance_lt hpeek hinner htake)

theorem steady_link (lhs : Expr) : Steady (link lhs) := by
  refine steady_peekKind.bind fun kind => ?_
  split
  · exact .pure _
  · exact steady_advance.bind fun _ => steady_term.bind fun _ => .pure _

/-- A chain of operators, as long as it goes. -/
def chain : Expr → Parser Expr :=
  repeatedly link link_advances

/-- A chain of terms and operators, as long as it goes. Operators associate to the left. -/
def expression : Parser Expr := do
  chain (← term)

theorem steady_expression : Steady expression :=
  steady_term.bind fun _ => steady_repeatedly steady_link link_advances _

/-- Whether an assignment comes next: an identifier and an equals sign. -/
def isAssignment : Parser Bool := do
  if ← check .identifier then
    return (← lookAt 1).kind == .equals
  else
    return false

/-- A declaration. -/
def declaration : Parser Statement := do
  let _ ← expect .varKeyword
  return .declaration (← expect .identifier)

/-- An assignment. -/
def assignment : Parser Statement := do
  let name ← expect .identifier
  let _ ← expect .equals
  return .assignment name (← expression)

/-- A statement, without the semicolon behind it. -/
def statement : Parser Statement := do
  match ← peekKind with
  | .varKeyword => declaration
  | .identifier | .number =>
      if ← isAssignment then assignment else return .expression (← expression)
  | _ => report statementStart

/-- A statement and the semicolon behind it. -/
def terminated : Parser Statement := do
  let parsed ← statement
  if ← check .semicolon then
    let _ ← advance
    return parsed
  else
    report (statementEnd parsed)

theorem steady_isAssignment : Steady isAssignment :=
  (steady_check _).bind fun _ => .ite ((steady_lookAt 1).bind fun _ => .pure _) (.pure _) _

theorem steady_declaration : Steady declaration :=
  (steady_expect _).bind fun _ => (steady_expect _).bind fun _ => .pure _

theorem steady_assignment : Steady assignment :=
  (steady_expect _).bind fun _ => (steady_expect _).bind fun _ => steady_expression.bind fun _ => .pure _

theorem steady_statement : Steady statement := by
  have hopen := steady_isAssignment.bind fun holds =>
    steady_assignment.ite (steady_expression.bind fun value => .pure (Statement.expression value)) holds
  refine steady_peekKind.bind fun kind => ?_
  split
  · exact steady_declaration
  · exact hopen
  · exact hopen
  · exact steady_report _

/-- Every statement takes a semicolon. -/
theorem terminated_advances {reader left : Lookahead} {parsed : Statement}
    (h : terminated reader = .ok parsed left) : left.size < reader.size := by
  obtain ⟨first, between, hstatement, hrest⟩ := bind_ok h
  obtain ⟨holds, seen, hcheck, hrest⟩ := bind_ok hrest
  cases holds
  case false => exact absurd hrest report_ne_ok
  case true =>
    obtain ⟨mark, behind, htake, hpure⟩ := bind_ok hrest
    cases hpure
    exact Nat.lt_of_lt_of_le (size_advance_lt (check_ok hcheck) nofun htake)
      (steady_statement _ _ _ hstatement)

/-- One statement more behind those that were parsed, the last one first, unless the closing brace comes
    next. -/
def item (parsed : List Statement) : Parser (Option (List Statement)) := do
  if ← check .rightBrace then
    return none
  else
    return some ((← terminated) :: parsed)

theorem item_advances : Advances item := by
  intro parsed longer reader left h
  obtain ⟨holds, seen, hcheck, hrest⟩ := bind_ok h
  cases holds
  case true => cases hrest
  case false =>
    obtain ⟨first, behind, hterminated, hpure⟩ := bind_ok hrest
    cases hpure
    exact Nat.lt_of_lt_of_le (terminated_advances hterminated) (steady_check _ _ _ _ hcheck)

/-- All statements up to the closing brace, which stays in place. -/
def statements : Parser (List Statement) := do
  return (← repeatedly item item_advances []).reverse

/-- A module and the end of the source behind it. -/
def wholeModule : Parser Module := do
  let _ ← expect .moduleKeyword
  let identifier ← expect .identifier
  let _ ← expect .leftBrace
  let items ← statements
  let _ ← expect .rightBrace
  let _ ← expect .eof
  return ⟨identifier, ⟨.ofList items⟩⟩

end Parser

/-- The module that a source text holds. -/
def parse (source : String) : Except ParseError Module :=
  match Parser.wholeModule (.ofSource source) with
  | .ok m _ => .ok m
  | .error error _ => .error error

/-! ## Steps as data

A parser can be driven step by step. Steps that fail leave the stream at a definite place, so a session
goes on behind them. -/

namespace Parser

/-- What can be asked of a parser. -/
inductive Request where
  /-- Look at the next token. -/
  | peek
  /-- Take the next token. -/
  | advance
  /-- Ask whether the next token has this kind. -/
  | check (kind : TokenKind)
  /-- Take the next token if it has this kind. -/
  | expect (kind : TokenKind)
  /-- Fail at the next token. -/
  | report (expected : List TokenKind)
  /-- Parse an expression. -/
  | expression
  /-- Parse a module and the end of the source. -/
  | wholeModule

/-- What a parser answers. -/
inductive Answer where
  /-- A token. -/
  | token (token : Token)
  /-- Whether the next token has the kind asked for. -/
  | verdict (holds : Bool)
  /-- An expression. -/
  | expression (expr : Expr)
  /-- A module. -/
  | wholeModule (m : Module)

/-- Performs a request. -/
def perform : Request → Parser Answer
  | .peek => return .token (← peek)
  | .advance => return .token (← advance)
  | .check kind => return .verdict (← check kind)
  | .expect kind => return .token (← expect kind)
  | .report expected => report expected
  | .expression => return .expression (← expression)
  | .wholeModule => return .wholeModule (← Parser.wholeModule)

end Parser

end ModuleLang
