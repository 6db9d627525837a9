/-!
# `CommandLine.Switch` — the options of the command line

All options are switches: they take no value. Two of them choose what is printed, two answer at once. A
word that names none of them may be a misspelling of one, if the two look alike.

## Contents
- **`jaro`**: the Jaro similarity of two words, a number between zero and one. Two characters match if they are
  the same and not too far apart; the similarity is the mean of the share of matched characters in the first
  word, the share in the second, and the share of matches that stand in the same order in both.
- **`Switch`**, its long spelling, and which word or letter names one.
- **`Switch.settings`**: the switches that go with an input.
- **`Switch.similar?`**: the switch that a misspelled word most likely means.
-/

namespace ModuleLang.CommandLine

/-! ## Words that look alike -/

/-- Marks the first unmarked occurrence of `c` among the places from `low` up to `high`, which is not
    included. The list begins with place `index`. -/
def markFirst (c : Char) (low high : Nat) : (index : Nat) → List (Char × Bool) → Option (List (Char × Bool))
  | _, [] => none
  | index, (d, marked) :: rest =>
      if low ≤ index ∧ index < high ∧ d = c ∧ !marked then some ((d, true) :: rest)
      else (markFirst c low high (index + 1) rest).map ((d, marked) :: ·)

/-- Matches the characters of the first word, which begin with place `index`, with the unmarked ones of
    the second. Gives the matched characters in the order of the first word, and the marked second. -/
def matching (range : Nat) : (index : Nat) → List Char → List (Char × Bool) →
    List Char × List (Char × Bool)
  | _, [], second => ([], second)
  | index, c :: rest, second =>
      match markFirst c (index - range) (index + range + 1) 0 second with
      | some marked =>
          let (matched, second) := matching range (index + 1) rest marked
          (c :: matched, second)
      | none => matching range (index + 1) rest second

/-- The Jaro similarity of two words. -/
def jaro (first second : List Char) : Float :=
  let range := max first.length second.length / 2 - 1
  let (matched, marked) := matching range 0 first (second.map (·, false))
  let matched' := (marked.filter (·.2)).map (·.1)
  let displaced := ((matched.zip matched').filter fun pair => pair.1 != pair.2).length / 2
  if first.isEmpty && second.isEmpty then 1
  else if matched.isEmpty then 0
  else
    let count := Float.ofNat matched.length
    (count / Float.ofNat first.length + count / Float.ofNat second.length
      + Float.ofNat (matched.length - displaced) / count) / 3

/-! ## Switches -/

/-- An option of the command line. -/
inductive Switch where
  /-- Print the tokens instead of the module. -/
  | printTokens
  /-- Print a debug line before the result. -/
  | debug
  /-- Print the help text. -/
  | help
  /-- Print the version. -/
  | version
deriving DecidableEq, Inhabited

namespace Switch

/-- All switches, in the order of the help text. -/
def all : List Switch := [printTokens, debug, help, version]

/-- The word that names a switch. -/
def word : Switch → String
  | printTokens => "print-tokens"
  | debug => "debug"
  | help => "help"
  | version => "version"

/-- A switch as it is written on the command line. -/
def spelling (switch : Switch) : String :=
  "--" ++ switch.word

/-- Whether a switch changes what is done with an input. The others answer at once. -/
def isSetting : Switch → Bool
  | printTokens | debug => true
  | help | version => false

/-- The switches that are settings. -/
def settings : List Switch := all.filter isSetting

/-- The switch that a word names. -/
def ofWord? (word : String) : Option Switch :=
  all.find? fun switch => switch.word = word

/-- The switch that a letter names. -/
def ofLetter? : Char → Option Switch
  | 'h' => some help
  | 'V' => some version
  | _ => none

/-- Only words more similar than this are taken for a misspelling. -/
def similarityThreshold : Float := 0.7

/-- The switch whose word is most similar to the given one, if one is similar enough. Among equally
    similar ones it is the last. -/
def similar? (word : String) : Option Switch :=
  let better (best : Option (Switch × Float)) (switch : Switch) : Option (Switch × Float) :=
    let similarity := jaro word.toList switch.word.toList
    if similarity > similarityThreshold then
      match best with
      | some (_, highest) => if similarity < highest then best else some (switch, similarity)
      | none => some (switch, similarity)
    else best
  (all.foldl better none).map (·.1)

end Switch

end ModuleLang.CommandLine
