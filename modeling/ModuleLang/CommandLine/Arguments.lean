import ModuleLang.CommandLine.Switch

/-!
# `CommandLine.Arguments` — reading the arguments

Arguments are read from left to right. Switches may stand before or behind the name of the input file,
and `--` makes everything behind it a name. Help and version answer as soon as they are reached, and the
first argument that cannot be accepted is an error, whatever follows it.

## Contents
- **`Options`**, **`Request`**: what a command line asks for.
- **`UsageError`**: what is wrong with an argument, and the form of the usage line that helps with it.
- **`readArguments`**: the request, or the first error.
-/

namespace ModuleLang.CommandLine

/-! ## Requests and errors -/

/-- What to do with an input, and where it is. -/
structure Options where
  /-- The name of the input file; `-` is the standard input. -/
  input : String := "-"
  /-- Print the tokens instead of the module. -/
  printTokens : Bool := false
  /-- Print a debug line before the result. -/
  debug : Bool := false
deriving DecidableEq, Inhabited

/-- What a command line asks for. -/
inductive Request where
  /-- Print the help text. -/
  | help
  /-- Print the version. -/
  | version
  /-- Read an input and print what is in it. -/
  | process (options : Options)
deriving DecidableEq

/-- The form of a usage line. -/
inductive Usage where
  /-- Any options and an input. -/
  | general
  /-- The switches that were given and an input, which may have been given too. -/
  | given (switches : List Switch) (inputGiven : Bool)
  /-- The given switches and a choice of the input and the settings. -/
  | choice (switches : List Switch)
deriving DecidableEq

/-- Why an argument is not accepted. -/
inductive Fault where
  /-- It looks like an option, but there is none of that name. -/
  | unknown (argument : String) (similar? : Option Switch)
  /-- It is a second name of an input. -/
  | surplus (argument : String)
  /-- The switch was given before. -/
  | repeated (switch : Switch)
  /-- A switch is given a value. -/
  | valued (switch : Switch) (value : String)
deriving DecidableEq

/-- An argument that is not accepted, and the usage line that goes with it. -/
structure UsageError where
  /-- What is wrong. -/
  fault : Fault
  /-- How it should be. -/
  usage : Usage
deriving DecidableEq

/-! ## Reading -/

/-- The arguments that were accepted so far. -/
structure Accepted where
  /-- The switches, in the order in which they were first given. -/
  switches : List Switch := []
  /-- The name of the input. -/
  input? : Option String := none

namespace Accepted

/-- The arguments so far with one more switch. -/
def withSwitch (accepted : Accepted) (switch : Switch) : Accepted :=
  { accepted with
    switches :=
      if switch ∈ accepted.switches then accepted.switches else accepted.switches ++ [switch] }

/-- What the accepted arguments ask for. -/
def options (accepted : Accepted) : Options :=
  { input := accepted.input?.getD "-"
    printTokens := .printTokens ∈ accepted.switches
    debug := .debug ∈ accepted.switches }

/-- The usage line for a word that names no switch: what was given, with the switch that was probably
    meant. -/
def usage (accepted : Accepted) (similar? : Option Switch) : Usage :=
  let meant := (similar?.map accepted.withSwitch).getD accepted
  if meant.switches.isEmpty && meant.input?.isNone then .general
  else .given meant.switches meant.input?.isSome

/-- The usage line for a switch with a value: the switch alone if it is the first one. Otherwise all that
    goes with an input is offered, and a switch that answers at once stands beside it. -/
def usageOfValued (accepted : Accepted) (switch : Switch) : Usage :=
  if accepted.switches.isEmpty then .given [switch] false
  else .choice (if switch.isSetting then [] else [switch])

/-- Accepts a name of an input. There can be only one. -/
def name (accepted : Accepted) (argument : String) : Except UsageError Accepted :=
  match accepted.input? with
  | none => .ok { accepted with input? := some argument }
  | some _ => .error ⟨.surplus argument, .general⟩

end Accepted

/-- The part of a list before the first equals sign, and the part behind it if there is one. -/
def splitAtEquals (argument : List Char) : String × Option String :=
  let word := argument.takeWhile (· ≠ '=')
  (String.ofList word, (argument.drop word.length).tail?.map String.ofList)

/-- What one argument is. -/
inductive Argument where
  /-- The mark `--`, behind which everything is a name. -/
  | endOfOptions
  /-- A word behind `--`, and the value behind an equals sign. -/
  | long (word : String) (value? : Option String)
  /-- The first letter behind `-`. -/
  | short (letter : Char)
  /-- The name of an input. A lone `-` is one too. -/
  | name

/-- What an argument is, by its first characters. -/
def classify (argument : String) : Argument :=
  match argument.toList with
  | ['-', '-'] => .endOfOptions
  | '-' :: '-' :: rest => let (word, value?) := splitAtEquals rest; .long word value?
  | '-' :: letter :: _ => .short letter
  | _ => .name

/-- Reads the arguments behind those that were accepted. -/
def readFrom (accepted : Accepted) : List String → Except UsageError Request
  | [] => .ok (.process accepted.options)
  | argument :: rest =>
      match classify argument with
      | .endOfOptions => do
          let accepted ← rest.foldlM Accepted.name accepted
          return .process accepted.options
      | .name =>
          match accepted.name argument with
          | .ok accepted => readFrom accepted rest
          | .error error => .error error
      | .short letter =>
          match Switch.ofLetter? letter with
          | some .help => .ok .help
          | some .version => .ok .version
          | _ => .error ⟨.unknown (String.ofList ['-', letter]) none, .general⟩
      | .long word value? =>
          match Switch.ofWord? word, value? with
          | none, _ =>
              let similar? := Switch.similar? word
              .error ⟨.unknown ("--" ++ word) similar?, accepted.usage similar?⟩
          | some switch, some value =>
              .error ⟨.valued switch value, accepted.usageOfValued switch⟩
          | some .help, none => .ok .help
          | some .version, none => .ok .version
          | some switch, none =>
              if switch ∈ accepted.switches then .error ⟨.repeated switch, .general⟩
              else readFrom (accepted.withSwitch switch) rest

/-- What a command line asks for, or why it cannot be accepted. -/
def readArguments (arguments : List String) : Except UsageError Request :=
  readFrom {} arguments

end ModuleLang.CommandLine
