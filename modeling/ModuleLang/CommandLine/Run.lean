import ModuleLang.CommandLine.Messages
import ModuleLang.Parser.Grammar
import ModuleLang.Token.Stream

/-!
# `CommandLine.Run` — from arguments to an outcome

The program reads its input, prints the module or the tokens in it, and reports errors. All it shows is
an exit code and two texts, and they depend on the arguments and on the input alone.

## Contents
- **`Outcome`**: exit code, standard output and standard error.
- **`process`**: the outcome for a source text.
- **`ReadError`**: why an input cannot be read.
- **`run`**: the outcome for a command line, where the caller says how an input is read.
-/

namespace ModuleLang.CommandLine

/-- What the program shows. -/
structure Outcome where
  /-- The exit code. -/
  exit : UInt32
  /-- What is written to the standard output. -/
  stdout : String
  /-- What is written to the standard error. -/
  stderr : String
deriving DecidableEq

namespace Outcome

/-- The result was found and is printed. -/
def success (text : String) : Outcome := ⟨0, text, ""⟩

/-- There is no result, and an error is reported. -/
def failure (exit : UInt32) (text : String) : Outcome := ⟨exit, "", text⟩

end Outcome

/-! ## Processing a source text -/

/-- A line of the debug log. Its level is written in blue. -/
def debugLine (message : String) : String :=
  "\x1b[34mDEBUG\x1b[0m " ++ message ++ "\n"

/-- The outcome of a successful run: the debug line if it is asked for, and the result. -/
def report (options : Options) (summary result : String) : Outcome :=
  .success ((if options.debug then debugLine summary else "") ++ result ++ "\n")

/-- The outcome of a run on a rejected source. -/
def reject (source : String) (error : ParseError) : Outcome :=
  .failure 1 (error.render source ++ "\n")

/-- The outcome for a source text. -/
def process (options : Options) (source : String) : Outcome :=
  if options.printTokens then
    match scan source with
    | .ok tokens =>
        report options ("scanned " ++ toString tokens.length ++ " tokens") (Token.describeAll tokens)
    | .error error => reject source (.lexical error)
  else
    match parse source with
    | .ok m =>
        report options
          ("parsed module " ++ m.name ++ " with " ++ toString m.statements.length ++ " statements")
          m.render
    | .error error => reject source error

/-! ## Running a command line -/

/-- Why an input cannot be read. -/
inductive ReadError where
  /-- There is no file of that name. -/
  | missing
  /-- The name is that of a directory. -/
  | directory
  /-- The name leads through a file as if it were a directory. -/
  | notDirectory
  /-- The name, or a part of it, is longer than the system allows. -/
  | nameTooLong
  /-- The input is not a text in UTF-8. -/
  | notText
  /-- The system gives another reason. -/
  | other (reason : String)
deriving DecidableEq

/-- The reason, as it is reported. -/
def ReadError.reason : ReadError → String
  | missing => "No such file or directory (os error 2)"
  | directory => "Is a directory (os error 21)"
  | notDirectory => "Not a directory (os error 20)"
  | nameTooLong => "File name too long (os error 36)"
  | notText => "stream did not contain valid UTF-8"
  | other reason => reason

/-- The outcome if an input cannot be read. -/
def unreadable (input : String) (error : ReadError) : Outcome :=
  .failure 1 ("Failed to read " ++ input ++ ": " ++ error.reason ++ "\n")

/-- The text in the bytes of an input. -/
def decode (bytes : ByteArray) : Except ReadError String :=
  match String.fromUTF8? bytes with
  | some source => .ok source
  | none => .error .notText

/-- The outcome for a command line. -/
def run {m : Type → Type} [Monad m] (readInput : String → m (Except ReadError String))
    (arguments : List String) : m Outcome := do
  match readArguments arguments with
  | .error error => return .failure 2 error.render
  | .ok .help => return .success helpText
  | .ok .version => return .success versionText
  | .ok (.process options) =>
      match ← readInput options.input with
      | .ok source => return process options source
      | .error error => return unreadable options.input error

end ModuleLang.CommandLine
