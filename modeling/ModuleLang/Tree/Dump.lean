import ModuleLang.Text.Quoted
import ModuleLang.Tree.Module

/-!
# `Tree.Dump` — trees in full

A dump shows every part of a tree with the name of the part. It has two layouts: on one line, or with
each part on a line of its own.

## Contents
- **`Dump`**: named records, named wrappers, lists and atoms.
- **`Dump.compact`**, **`Dump.pretty`**: the two layouts.
- **The dump of each type**, `Location.dump` up to `Module.dump`.
-/

namespace ModuleLang

/-- The parts of a value with their names. -/
inductive Dump where
  /-- A part that is shown as it is. -/
  | atom (text : String)
  /-- A record with named fields. -/
  | record (name : String) (fields : List (String × Dump))
  /-- A name around one part. -/
  | wrapper (name : String) (part : Dump)
  /-- A list of parts. -/
  | list (items : List Dump)

namespace Dump

/-! ## The layout on one line -/

mutual

/-- The layout on one line. -/
def compact : Dump → String
  | atom text => text
  | record name fields =>
      name ++ " \x7b " ++ ", ".intercalate (compactFields fields) ++ " \x7d"
  | wrapper name part => name ++ "(" ++ part.compact ++ ")"
  | list items => "[" ++ ", ".intercalate (compactItems items) ++ "]"

/-- The fields of a record, each on one line. -/
def compactFields : List (String × Dump) → List String
  | [] => []
  | (name, part) :: rest => (name ++ ": " ++ part.compact) :: compactFields rest

/-- The members of a list, each on one line. -/
def compactItems : List Dump → List String
  | [] => []
  | item :: rest => item.compact :: compactItems rest

end

/-! ## The layout on many lines -/

/-- A line feed and the blanks in front of a part at a depth: four for each level. -/
def newline (depth : Nat) : String :=
  "\n" ++ Text.spaces (4 * depth)

mutual

/-- The layout on many lines, for a value that stands at a depth. Every part has a comma behind it. -/
def prettyAt (depth : Nat) : Dump → String
  | atom text => text
  | record name fields =>
      name ++ " \x7b" ++ String.join (prettyFields (depth + 1) fields) ++ newline depth ++ "\x7d"
  | wrapper name part =>
      name ++ "(" ++ newline (depth + 1) ++ part.prettyAt (depth + 1) ++ "," ++ newline depth ++ ")"
  | list [] => "[]"
  | list (item :: rest) =>
      "[" ++ String.join (prettyItems (depth + 1) (item :: rest)) ++ newline depth ++ "]"

/-- The fields of a record, each on its own line. -/
def prettyFields (depth : Nat) : List (String × Dump) → List String
  | [] => []
  | (name, part) :: rest =>
      (newline depth ++ name ++ ": " ++ part.prettyAt depth ++ ",") :: prettyFields depth rest

/-- The members of a list, each on its own line. -/
def prettyItems (depth : Nat) : List Dump → List String
  | [] => []
  | item :: rest => (newline depth ++ item.prettyAt depth ++ ",") :: prettyItems depth rest

end

/-- The layout on many lines. -/
def pretty (dump : Dump) : String :=
  dump.prettyAt 0

end Dump

/-! ## The parts of each type -/

/-- A location with all three of its numbers. -/
def Location.dump (location : Location) : Dump :=
  .record "Location"
    [("line", .atom (toString location.line)), ("column", .atom (toString location.column)),
     ("start", .atom (toString location.start))]

/-- A token with its kind, its quoted lexeme and its location. -/
def Token.dump (token : Token) : Dump :=
  .record "Token"
    [("kind", .atom token.kind.longName), ("lexeme", .atom (Text.quoteText token.lexeme)),
     ("location", token.location.dump)]

/-- An operator's name. -/
def Operator.dump : Operator → Dump
  | add => .atom "Add"
  | sub => .atom "Sub"

/-- An expression with all its operands. -/
def Expr.dump : Expr → Dump
  | literal value => .wrapper "Literal" (.record "Literal" [("value", value.dump)])
  | reference variableName =>
      .wrapper "Lvalue" (.record "Lvalue" [("identifier", variableName.dump)])
  | operation operator lhs rhs =>
      .wrapper "Operation"
        (.record "Operation" [("kind", operator.dump), ("lhs", lhs.dump), ("rhs", rhs.dump)])

/-- A statement with its name and its expression. -/
def Statement.dump : Statement → Dump
  | declaration name => .wrapper "Declaration" (.record "Declaration" [("identifier", name.dump)])
  | assignment name value =>
      .wrapper "Assign"
        (.record "Assign" [("identifier", name.dump), ("expression", value.dump)])
  | expression value => .wrapper "Expression" value.dump

/-- The statements, without their number. -/
def Statements.dump (statements : Statements) : Dump :=
  .list (statements.items.map Statement.dump)

/-- A program with its statements. -/
def Program.dump (program : Program) : Dump :=
  .record "Program" [("statements", program.statements.dump)]

/-- A module with its name and its program. -/
def Module.dump (m : Module) : Dump :=
  .record "Module" [("identifier", m.identifier.dump), ("program", m.program.dump)]

end ModuleLang
