import ModuleLang.Text.Lines
import ModuleLang.Text.Quoted
import ModuleLang.Token.Cursor

/-!
# `Diagnostic.Error` — why a source is rejected, and how that is told

A source is rejected for one of two causes: a character that no token begins with, or a token that does
not fit the grammar. Each has a message and a place, and `render` shows both in the source text. A snippet
shows a line of the source between two fences, the line before it if there is one, and under them a caret
that points at a column, followed by the message:

    ```
    0  | module m {
    1  |   x = ;
               ^ Expected one of number, id, but got ";" of kind semicolon
    ```

## Contents
- **`numbered`**: a line with its number and its bar. **`snippetLines`**, **`snippet`**: the place in the source, as
  lines and as one text.
- **`ParseError`**: the two causes.
- **Messages.** `LexError.message` and `ParseError.message` name the location. `ParseError.caption` does not: it stands
  under the caret.
- **`ParseError.render`**: the caret diagnostic.
- **`Failure`**: a parse error, or a failure of another kind that has no place in the source.
-/

namespace ModuleLang

/-! ## A message under the line it is about -/

/-- The mark above and below a snippet. -/
def fence : String := "```"

/-- Line `n` of a text with its number in front. A line that the text does not have is shown empty. -/
def numbered (source : List String) (n : Nat) : String :=
  toString n ++ "  | " ++ source[n]?.getD ""

/-- The width of what `numbered` writes in front of line `n`. -/
def gutter (n : Nat) : Nat :=
  (toString n).length + 4

/-- The lines of the snippet for a location, fences included. -/
def snippetLines (source : String) (location : Location) (message : String) : List String :=
  let lines := Text.splitLines source
  let n := location.line
  let before := if n = 0 then [] else [numbered lines (n - 1)]
  let pointer := Text.spaces (location.column + gutter n) ++ "^ " ++ message
  [fence] ++ before ++ [numbered lines n, pointer, fence]

/-- The snippet for a location, with the message at its caret. -/
def snippet (source : String) (location : Location) (message : String) : String :=
  "\n".intercalate (snippetLines source location message)

/-! ## Causes and messages -/

/-- Why a source is rejected. -/
inductive ParseError where
  /-- A character begins no token. -/
  | lexical (cause : LexError)
  /-- A token does not fit; one of the expected kinds would have been accepted in its place. -/
  | unexpected (expected : List TokenKind) (found : Token)
deriving DecidableEq

/-- The message for a bad character, which is shown in quotes. -/
def LexError.message (error : LexError) : String :=
  "Scanning failed starting at: " ++ Text.quoteChar error.character ++ " " ++ error.location.render

/-- The message for a bad character under a caret: the character as it is, without a location. -/
def LexError.caption (error : LexError) : String :=
  "Scanning failed starting at: " ++ error.character.toString

/-- The kinds of tokens that would have been accepted: one name, or a list of names. -/
def expectation : List TokenKind → String
  | [kind] => kind.name
  | kinds => "one of " ++ ", ".intercalate (kinds.map TokenKind.name)

/-- The message for an unexpected token, without its location. -/
def unexpectedCaption (expected : List TokenKind) (found : Token) : String :=
  "Expected " ++ expectation expected ++ ", but got \"" ++ found.lexeme ++ "\" of kind "
    ++ found.kind.name

namespace ParseError

/-- The place in the source that the error is about. -/
def location : ParseError → Location
  | lexical cause => cause.location
  | unexpected _ found => found.location

/-- The message that is shown under a caret. -/
def caption : ParseError → String
  | lexical cause => cause.caption
  | unexpected expected found => unexpectedCaption expected found

/-- The message that names the location. -/
def message : ParseError → String
  | lexical cause => cause.message
  | unexpected expected found => unexpectedCaption expected found ++ " " ++ found.location.render

/-- The diagnostic: the place in the source text, with the message at a caret. -/
def render (source : String) (error : ParseError) : String :=
  snippet source error.location error.caption

end ParseError

/-- Any failure that may have to be reported for a source. -/
inductive Failure where
  /-- The source was rejected. -/
  | rejected (error : ParseError)
  /-- Something else failed, and all there is to say is in the message. -/
  | other (message : String)

namespace Failure

/-- The message of a failure. -/
def message : Failure → String
  | rejected error => error.message
  | other message => message

/-- The report of a failure: a diagnostic if the source was rejected, else the bare message. -/
def render (source : String) : Failure → String
  | rejected error => error.render source
  | other message => message

end Failure

end ModuleLang
