/-!
# `Location` — positions in a source text

A location names one character of a source text three ways: by its line, by its column on that line,
and by its offset from the beginning. All three count characters from zero.

## Contents
- **`Location`** with its origin and its printed form `loc(:line:column)`.
- **`Location.after`**: the location behind one character; only a line feed begins a new line.
- **`Location.afterAll`**: the location behind a run of characters, so that the location of any
  character is `origin.afterAll` of the text before it.
-/

namespace ModuleLang

/-- A position in a source text. -/
structure Location where
  /-- The number of line feeds before the position. -/
  line : Nat
  /-- The number of characters between the last line feed before the position and the position. -/
  column : Nat
  /-- The number of characters before the position. -/
  start : Nat
deriving DecidableEq, Inhabited

namespace Location

/-- The beginning of a text. -/
def origin : Location := ⟨0, 0, 0⟩

/-- The location behind the character `c` that stands at this location. -/
def after (location : Location) (c : Char) : Location :=
  if c = '\n' then ⟨location.line + 1, 0, location.start + 1⟩
  else ⟨location.line, location.column + 1, location.start + 1⟩

/-- The location behind a run of characters that begins at this location. -/
def afterAll (location : Location) (run : List Char) : Location :=
  run.foldl after location

/-- The printed form, without the offset. -/
def render (location : Location) : String :=
  "loc(:" ++ toString location.line ++ ":" ++ toString location.column ++ ")"

instance : ToString Location := ⟨render⟩

@[simp] theorem afterAll_nil (location : Location) : location.afterAll [] = location := rfl

@[simp] theorem afterAll_cons (location : Location) (c : Char) (run : List Char) :
    location.afterAll (c :: run) = (location.after c).afterAll run := rfl

theorem afterAll_append (location : Location) (first second : List Char) :
    location.afterAll (first ++ second) = (location.afterAll first).afterAll second :=
  List.foldl_append

/-- A run moves the offset by its length. -/
theorem start_afterAll (location : Location) (run : List Char) :
    (location.afterAll run).start = location.start + run.length := by
  induction run generalizing location with
  | nil => rfl
  | cons c run ih =>
      rw [afterAll_cons, ih, List.length_cons]
      unfold after
      split <;> simp only <;> omega

end Location

end ModuleLang
