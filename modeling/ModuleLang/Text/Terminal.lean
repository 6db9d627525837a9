/-!
# `Text.Terminal` — what a terminal shows of a text

Some characters of a text are not shown but steer the terminal: control characters, and the sequences
that an escape character begins, for colours, titles and devices. A message that repeats a foreign text
leaves them out.

A blank control character (a line feed, a tab) within a sequence is obeyed at once and interrupts the
sequence: what follows is text, until the next control character goes on with the sequence.

## Contents
- **`Mode`**: what the next character belongs to, and `Mode.next`, the mode behind a character.
- **`State`**: a mode and whether it is interrupted; which characters are shown in it.
- **`shown`**: the characters of a text that are shown.
-/

namespace ModuleLang.Text.Terminal

/-! ## Control sequences -/

/-- What the next character of a text belongs to. -/
inductive Mode where
  /-- The text itself. -/
  | text
  /-- A sequence of which only the escape character was read. -/
  | escape
  /-- A short sequence, which its first digit, letter or sign ends. -/
  | short
  /-- A control sequence, as for colours, which a letter or sign ends. -/
  | control
  /-- A command of the operating system, as for the title of a window. A bell ends it. -/
  | command
  /-- A device control string of which nothing was read. -/
  | device
  /-- The parameters of a device control string. -/
  | deviceParameters
  /-- The marks between the parameters and the data of a device control string. -/
  | deviceMarks
  /-- Data for a device or an application. Only the byte `0x9C`, cancelling or an escape character ends
      it. -/
  | data
deriving DecidableEq, Inhabited

namespace Mode

/-- The mode behind the escape character and one more. -/
def introduced (c : Char) : Mode :=
  match c with
  | '[' => control
  | ']' => command
  | 'P' => device
  | 'X' | '^' | '_' => data
  | _ =>
      if ' ' ≤ c ∧ c ≤ '/' then short
      else if '0' ≤ c ∧ c ≤ '~' then text
      else escape

/-- The mode behind a character. The escape character begins a sequence anywhere, and the characters
    for cancelling and substitution end any. -/
def next (mode : Mode) (c : Char) : Mode :=
  if c = '\x1b' then escape
  else if c = '\x18' ∨ c = '\x1a' then text
  else
    match mode with
    | text => text
    | escape => introduced c
    | short => if '0' ≤ c ∧ c ≤ '~' then text else short
    | control => if '@' ≤ c ∧ c ≤ '~' then text else control
    | command => if c = '\x07' then text else command
    | device =>
        if ' ' ≤ c ∧ c ≤ '/' then deviceMarks
        else if '0' ≤ c ∧ c ≤ '?' then deviceParameters
        else if '@' ≤ c ∧ c ≤ '~' then data
        else device
    | deviceParameters =>
        if ' ' ≤ c ∧ c ≤ '/' then deviceMarks
        else if '<' ≤ c ∧ c ≤ '~' then data
        else deviceParameters
    | deviceMarks => if '0' ≤ c ∧ c ≤ '~' then data else deviceMarks
    | data => if 0x9C ∈ String.utf8EncodeChar c then text else data

/-- Whether a control character is obeyed within this mode. Commands and device strings take it for
    their own. -/
def obeys : Mode → Bool
  | text | escape | short | control => true
  | _ => false

end Mode

/-! ## Shown characters -/

/-- Whether a character steers a terminal by itself. -/
def isControl (c : Char) : Bool :=
  c < ' ' || c = '\x7f'

/-- Whether a control character stands for blank space, which a text may hold. -/
def isBlankControl (c : Char) : Bool :=
  c = '\t' || c = '\n' || c = '\x0c' || c = '\r'

/-- How far a terminal has read. -/
structure State where
  /-- What the next character belongs to. -/
  mode : Mode := .text
  /-- Whether a blank control character interrupts the sequence, so that text follows. -/
  interrupted : Bool := false
deriving DecidableEq, Inhabited

namespace State

/-- Whether a character is shown. -/
def shows (state : State) (c : Char) : Bool :=
  if isBlankControl c then state.mode.obeys
  else !isControl c && (state.interrupted || state.mode = .text)

/-- The state behind a character. A character beyond ASCII that is shown ends an interrupted sequence. -/
def next (state : State) (c : Char) : State :=
  if state.shows c then
    if isBlankControl c then { state with interrupted := true }
    else if c.toNat < 0x80 then state
    else {}
  else { mode := state.mode.next c }

end State

/-- The characters that are shown behind a state. -/
def shownFrom (state : State) : List Char → List Char
  | [] => []
  | c :: rest =>
      if state.shows c then c :: shownFrom (state.next c) rest else shownFrom (state.next c) rest

/-- The characters of a text that a terminal shows. -/
def shown (text : String) : String :=
  String.ofList (shownFrom {} text.toList)

end ModuleLang.Text.Terminal
