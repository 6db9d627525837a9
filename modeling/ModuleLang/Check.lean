import ModuleLang.Parser.Grammar
import ModuleLang.Token.Stream

/-!
# `Check` — checks that tests are written with

A test compares a text that a program wrote with a text that was expected, line by line and without the
blanks at the ends of the texts. Either all lines have to be the same, or the expected lines have to
occur in the output, in their order, with anything between and around them. A test that needs a module,
an error or the tokens of a source says so, and gets a report if the source is not as it expects.

## Contents
- **`checkExact`** and its fault `Mismatch`: the first line where two lists of lines differ.
- **`checkContain`** and its fault `MissingLine`: the first expected line that no longer finds a place.
- **`Mismatch.report`**, **`MissingLine.report`**: where two texts differ, with both lines in quotes if both texts
  have one; the expected lines, with the missing one marked. Both name the caller of the check.
- **`expectModule`**, **`expectError`**: the module in a source, or the error that it is rejected for.
  Blanks at the ends of the source are removed first.
- **`expectTokens`**: the tokens of a source as it is.
-/

namespace ModuleLang.Check

/-! ## The same lines -/

/-- The first difference between two lists of lines. -/
inductive Mismatch where
  /-- The output ends before this line. -/
  | missing (index : Nat)
  /-- The output goes on with this line where it should have ended. -/
  | surplus (index : Nat)
  /-- This line is not as expected. -/
  | different (index : Nat) (actual expected : String)
deriving DecidableEq

/-- The first difference between two lists of lines, which begin with line `index`. -/
def firstMismatch : (index : Nat) → (actual expected : List String) → Option Mismatch
  | _, [], [] => none
  | index, [], _ :: _ => some (.missing index)
  | index, _ :: _, [] => some (.surplus index)
  | index, line :: actual, line' :: expected =>
      if line = line' then firstMismatch (index + 1) actual expected
      else some (.different index line line')

/-- Checks that the two texts, trimmed, have the same lines. -/
def checkExact (actual expected : String) : Except Mismatch Unit :=
  match firstMismatch 0 (Text.lines (Text.trim actual)) (Text.lines (Text.trim expected)) with
  | none => .ok ()
  | some mismatch => .error mismatch

/-! ## Lines that occur in order -/

/-- The lines behind the first line in which `pattern` occurs, if there is one. -/
def linesBehind (pattern : String) : List String → Option (List String)
  | [] => none
  | line :: rest =>
      if Text.occursIn pattern.toList line.toList then some rest else linesBehind pattern rest

/-- The number of the first expected line that finds no place behind the places of those before it.
    Each line takes the first place that it can; a blank line takes none. -/
def firstMissing : (index : Nat) → (expected actual : List String) → Option Nat
  | _, [], _ => none
  | index, line :: expected, actual =>
      let pattern := Text.trim line
      if pattern = "" then firstMissing (index + 1) expected actual
      else
        match linesBehind pattern actual with
        | some behind => firstMissing (index + 1) expected behind
        | none => some index

/-- An expected line that does not occur where it should. -/
structure MissingLine where
  /-- All expected lines. -/
  expected : List String
  /-- The number of the line that is missing. -/
  index : Nat
deriving DecidableEq

/-- Checks that the lines of the second text, trimmed, occur in lines of the first, in their order. -/
def checkContain (actual expected : String) : Except MissingLine Unit :=
  let expected := Text.lines (Text.trim expected)
  match firstMissing 0 expected (Text.lines (Text.trim actual)) with
  | none => .ok ()
  | some index => .error ⟨expected, index⟩

/-! ## Reports -/

/-- The report of the first difference between two texts. -/
def Mismatch.report (caller : String) : Mismatch → String
  | missing index => "Line " ++ toString index ++ " not found in output: called from " ++ caller
  | surplus index => "Unexpected line " ++ toString index ++ " in output: called from " ++ caller
  | different _ actual expected =>
      "assertion `left == right` failed: called from " ++ caller ++ "\n  left: "
        ++ Text.quoteText actual ++ "\n right: " ++ Text.quoteText expected

/-- The lines with a mark behind the one with the given number. -/
def markMissing (lines : List String) (index : Nat) : List String :=
  lines.modify index (· ++ "   <== missing")

/-- The report of a missing line: all expected lines, with a mark behind that one. -/
def MissingLine.report (caller : String) (fault : MissingLine) : String :=
  "\n".intercalate
    (["A line is missing from the output:", "```"] ++ markMissing fault.expected fault.index
      ++ ["```", "when called from " ++ caller])

/-! ## Sources that should be good or bad -/

/-- The module in a trimmed source, with its text. -/
def expectModule (source : String) : Except String (Module × String) :=
  let source := Text.trim source
  match parse source with
  | .ok m => .ok (m, m.render)
  | .error error => .error ("Parsing failed:\n" ++ error.render source)

/-- The error that a trimmed source is rejected for, with its diagnostic. -/
def expectError (source : String) : Except String (ParseError × String) :=
  let source := Text.trim source
  match parse source with
  | .ok m => .error ("Expected parsing to fail, got:\n" ++ m.render)
  | .error error => .ok (error, error.render source)

/-- The tokens of a source, with their descriptions. -/
def expectTokens (source : String) : Except String (List Token × String) :=
  match scan source with
  | .ok tokens => .ok (tokens, Token.describeAll tokens)
  | .error error => .error ("called `Result::unwrap()` on an `Err` value: " ++ error.message)

end ModuleLang.Check
