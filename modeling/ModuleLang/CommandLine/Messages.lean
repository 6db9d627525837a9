import ModuleLang.CommandLine.Arguments
import ModuleLang.Text.Terminal

/-!
# `CommandLine.Messages` — help, version and usage errors

## Contents
- **`helpText`**, **`versionText`**: the answers to the switches that ask for them.
- **`UsageError.render`**: the error, a tip if there is one, and the usage line, with blank lines between.
  Of an argument it repeats only what a terminal shows.
-/

namespace ModuleLang.CommandLine

open Text.Terminal (shown)

/-- The name of the program. -/
def programName : String := "pine"

/-- A usage line with the given words behind the name of the program. -/
def usageLine (words : List String) : String :=
  "Usage: " ++ " ".intercalate (programName :: words)

/-- A usage line. -/
def Usage.render : Usage → String
  | general => usageLine ["[OPTIONS]", "[INPUT]"]
  | given switches inputGiven =>
      usageLine (switches.map Switch.spelling ++ [if inputGiven then "<INPUT>" else "[INPUT]"])
  | choice switches =>
      let alternatives := "INPUT" :: Switch.settings.map Switch.spelling
      usageLine (switches.map Switch.spelling ++ ["<" ++ "|".intercalate alternatives ++ ">"])

/-- The lines of the answer to a request for help. -/
def helpLines : List String :=
  ["Command-line driver for the pine front end",
   "",
   Usage.general.render,
   "",
   "Arguments:",
   "  [INPUT]  The input file (- is interpreted as stdin) [default: -]",
   "",
   "Options:",
   "      --print-tokens  Print the token stream instead of the parsed module",
   "      --debug         Print debug logs",
   "  -h, --help          Print help",
   "  -V, --version       Print version"]

/-- The answer to a request for help. -/
def helpText : String :=
  "\n".intercalate helpLines ++ "\n"

/-- The answer to a request for the version. -/
def versionText : String :=
  programName ++ " 0.1.0\n"

/-- What is wrong with an argument. -/
def Fault.message : Fault → String
  | unknown argument _ => "unexpected argument '" ++ shown argument ++ "' found"
  | surplus argument => "unexpected argument '" ++ shown argument ++ "' found"
  | repeated switch => "the argument '" ++ switch.spelling ++ "' cannot be used multiple times"
  | valued switch value =>
      "unexpected value '" ++ shown value ++ "' for '" ++ switch.spelling
        ++ "' found; no more were expected"

/-- What may have been meant by an unknown option: a similar one, or else a name. -/
def Fault.tip? : Fault → Option String
  | unknown _ (some switch) => some ("a similar argument exists: '" ++ switch.spelling ++ "'")
  | unknown argument none =>
      some ("to pass '" ++ shown argument ++ "' as a value, use '-- " ++ shown argument ++ "'")
  | _ => none

/-- The whole message about a command line that is not accepted. -/
def UsageError.render (error : UsageError) : String :=
  let tip := (error.fault.tip?.map fun tip => ["  tip: " ++ tip]).getD []
  let paragraphs := ["error: " ++ error.fault.message] ++ tip
    ++ [error.usage.render, "For more information, try '--help'."]
  "\n\n".intercalate paragraphs ++ "\n"

end ModuleLang.CommandLine
