import ModuleLang.Text.Lines
import ModuleLang.Tree.Statement

/-!
# `Tree.Module` — programs and modules

A module has a name and a program, and a program is a list of statements. Both print as source text.

## Contents
- **`Program`** and its text at any depth of indentation.
- **`Module`** and its text.
-/

namespace ModuleLang

/-- The statements of a module. -/
structure Program where
  /-- The statements, in the order of the source. -/
  statements : Statements
deriving BEq, Inhabited

namespace Program

/-- The program without statements. -/
def empty : Program := ⟨.empty⟩

/-- The blanks in front of a line: two for each level. A negative level has none. -/
def indentation (level : Int) : String :=
  Text.spaces (2 * level.toNat)

/-- One line for each statement, at a level of indentation. -/
def renderAt (level : Int) (program : Program) : String :=
  String.join (program.statements.items.map fun statement =>
    indentation level ++ statement.render ++ ";\n")

/-- The text of a program by itself. -/
def render (program : Program) : String :=
  program.renderAt 0

instance : ToString Program := ⟨render⟩

end Program

/-- A module, which is what a source text holds. -/
structure Module where
  /-- The token of the module's name. -/
  identifier : Token
  /-- What the braces hold. -/
  program : Program
deriving BEq, Inhabited

namespace Module

/-- The module's name. -/
def name (m : Module) : String :=
  m.identifier.lexeme

/-- The statements of the module's program. -/
def statements (m : Module) : Statements :=
  m.program.statements

/-- The text of a module, without a line feed at its end. -/
def render (m : Module) : String :=
  "module " ++ m.name ++ " \x7b\n" ++ m.program.renderAt 1 ++ "\x7d"

instance : ToString Module := ⟨render⟩

end Module

end ModuleLang
