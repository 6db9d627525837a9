import ModuleLang.Token.Basic
import ModuleLang.Unicode.Alphabetic
import ModuleLang.Unicode.Ranges

/-!
# `Token.Cursor` — reading one token from a source text

A cursor is a place in a source text: the characters still to read, and their location. Reading a
token skips blanks and then takes the longest run of characters that is a token.

## Contents
- **Character classes.** `isDigit`, `isWordCharacter`; blanks are `Unicode.isWhiteSpace`.
- **`LexError`**: a character that no token begins with.
- **`Cursor`** and `Cursor.take`: taking the longest run of characters of a class.
- **`Cursor.read`**: one token. It ends in one of three ways (`readHere_cases`): behind a token that is
  not empty (`read_shrinks`), at the end of the text, where it stays (`read_of_eof`), or on the
  character that no token begins with, where it stays too (`read_of_error`).
-/

namespace ModuleLang

open Unicode (isAlphabetic isWhiteSpace)

/-! ## Character classes -/

/-- Numbers are runs of the ten ASCII digits. -/
def isDigit (c : Char) : Bool :=
  '0' ≤ c && c ≤ '9'

/-- Words are runs of letters and underscores. Digits do not belong to words. -/
def isWordCharacter (c : Char) : Bool :=
  isAlphabetic c || c == '_'

/-- The failure to read a token: a character that no token begins with. -/
structure LexError where
  /-- The character that no token begins with. -/
  character : Char
  /-- Where that character stands. -/
  location : Location
deriving DecidableEq, Inhabited

/-! ## Cursors -/

/-- A place in a source text. -/
structure Cursor where
  /-- The characters that have not been read. -/
  rest : List Char
  /-- The location of the first of them. -/
  location : Location
deriving DecidableEq, Inhabited

namespace Cursor

/-- The cursor in front of a text. -/
def ofSource (source : String) : Cursor :=
  ⟨source.toList, .origin⟩

/-- Takes the longest run of characters in a class. -/
def take (cursor : Cursor) (p : Char → Bool) : List Char × Cursor :=
  let run := cursor.rest.takeWhile p
  (run, ⟨cursor.rest.dropWhile p, cursor.location.afterAll run⟩)

/-- The cursor behind the blanks that it stands in front of. -/
def skipBlanks (cursor : Cursor) : Cursor :=
  (cursor.take isWhiteSpace).2

/-! ## Reading one token -/

/-- Reads the token that begins at the cursor. -/
def readHere : EStateM LexError Cursor Token := fun here =>
  match here.rest with
  | [] => .ok ⟨.eof, "", here.location⟩ here
  | c :: rest =>
      match TokenKind.punctuation? c with
      | some kind => .ok ⟨kind, c.toString, here.location⟩ ⟨rest, here.location.after c⟩
      | none =>
          if isDigit c then
            let (digits, behind) := here.take isDigit
            .ok ⟨.number, String.ofList digits, here.location⟩ behind
          else if isWordCharacter c then
            let (letters, behind) := here.take isWordCharacter
            let word := String.ofList letters
            .ok ⟨.ofWord word, word, here.location⟩ behind
          else .error ⟨c, here.location⟩ here

/-- Reads one token behind any blanks. At the end of the text this is an end token, as often as it is
    asked for. On a character that no token begins with the cursor stays on that character. -/
def read : EStateM LexError Cursor Token := fun cursor =>
  readHere cursor.skipBlanks

/-! ## What reading leaves -/

theorem dropWhile_dropWhile (p : Char → Bool) (run : List Char) :
    (run.dropWhile p).dropWhile p = run.dropWhile p := by
  induction run with
  | nil => rfl
  | cons c rest ih =>
      rw [List.dropWhile_cons]
      split
      case isTrue => exact ih
      case isFalse outside => rw [List.dropWhile_cons_of_neg outside]

theorem takeWhile_dropWhile (p : Char → Bool) (run : List Char) :
    (run.dropWhile p).takeWhile p = [] := by
  induction run with
  | nil => rfl
  | cons c rest ih =>
      rw [List.dropWhile_cons]
      split
      case isTrue => exact ih
      case isFalse outside => rw [List.takeWhile_cons_of_neg outside]

/-- Behind the blanks there are none to skip. -/
theorem skipBlanks_skipBlanks (cursor : Cursor) : cursor.skipBlanks.skipBlanks = cursor.skipBlanks := by
  simp [skipBlanks, take, dropWhile_dropWhile, takeWhile_dropWhile]

/-- Blanks in front of a token make no difference to reading it. -/
theorem read_skipBlanks (cursor : Cursor) : read cursor.skipBlanks = read cursor := by
  simp [read, skipBlanks_skipBlanks]

theorem length_dropWhile_lt {p : Char → Bool} {c : Char} {rest : List Char} (h : p c = true) :
    ((c :: rest).dropWhile p).length < (c :: rest).length := by
  rw [List.dropWhile_cons_of_pos h]
  exact Nat.lt_succ_of_le (List.dropWhile_sublist p).length_le

theorem length_rest_skipBlanks (cursor : Cursor) :
    cursor.skipBlanks.rest.length ≤ cursor.rest.length :=
  (List.dropWhile_sublist _).length_le

/-- The three ways in which reading ends: with the end token, which takes nothing; with a token that takes
    characters; or with a failure, which takes nothing. -/
theorem readHere_cases (here : Cursor) :
    (here.rest = [] ∧ readHere here = .ok ⟨.eof, "", here.location⟩ here) ∨
    (∃ token behind, readHere here = .ok token behind ∧ token.kind ≠ .eof ∧
      behind.rest.length < here.rest.length) ∨
    (∃ failure, readHere here = .error failure here) := by
  unfold readHere
  split
  case h_1 empty => exact .inl ⟨empty, rfl⟩
  case h_2 c rest heq =>
    right
    split
    case h_1 kind mark =>
      refine .inl ⟨_, _, rfl, ?_, by simp [heq]⟩
      rintro rfl
      exact TokenKind.punctuation?_ne_eof mark
    case h_2 =>
      split
      case isTrue digit =>
        refine .inl ⟨_, _, rfl, nofun, ?_⟩
        simpa only [take, heq] using length_dropWhile_lt digit
      case isFalse =>
        split
        case isTrue letter =>
          refine .inl ⟨_, _, rfl, TokenKind.ofWord_ne_eof _, ?_⟩
          simpa only [take, heq] using length_dropWhile_lt letter
        case isFalse => exact .inr ⟨_, rfl⟩

/-- Every token but the end token takes characters from the text. -/
theorem read_shrinks {cursor behind : Cursor} {token : Token}
    (h : read cursor = .ok token behind) (inner : token.kind ≠ .eof) :
    behind.rest.length < cursor.rest.length := by
  refine Nat.lt_of_lt_of_le ?_ (length_rest_skipBlanks cursor)
  rcases readHere_cases cursor.skipBlanks with ⟨_, last⟩ | ⟨_, _, found, _, shrinks⟩ | ⟨_, failed⟩
  · cases h.symm.trans last
    exact absurd rfl inner
  · cases h.symm.trans found
    exact shrinks
  · cases h.symm.trans failed

/-- No token gives characters back to the text. -/
theorem length_read {cursor behind : Cursor} {token : Token}
    (h : read cursor = .ok token behind) : behind.rest.length ≤ cursor.rest.length := by
  refine Nat.le_trans ?_ (length_rest_skipBlanks cursor)
  rcases readHere_cases cursor.skipBlanks with ⟨_, last⟩ | ⟨_, _, found, _, shrinks⟩ | ⟨_, failed⟩
  · cases h.symm.trans last
    exact Nat.le_refl _
  · cases h.symm.trans found
    exact Nat.le_of_lt shrinks
  · cases h.symm.trans failed

/-- A failure gives no characters back to the text. -/
theorem length_read_error {cursor here : Cursor} {failure : LexError}
    (h : read cursor = .error failure here) : here.rest.length ≤ cursor.rest.length := by
  refine Nat.le_trans ?_ (length_rest_skipBlanks cursor)
  rcases readHere_cases cursor.skipBlanks with ⟨_, last⟩ | ⟨_, _, found, _, _⟩ | ⟨_, failed⟩
  · cases h.symm.trans last
  · cases h.symm.trans found
  · cases h.symm.trans failed
    exact Nat.le_refl _

/-- At the end of the text the end token can be read for ever. -/
theorem read_of_eof {cursor behind : Cursor} {token : Token}
    (h : read cursor = .ok token behind) (last : token.kind = .eof) :
    read behind = .ok token behind := by
  rcases readHere_cases cursor.skipBlanks with ⟨_, ended⟩ | ⟨_, _, found, inner, _⟩ | ⟨_, failed⟩
  · cases h.symm.trans ended
    rw [read_skipBlanks, h]
  · cases h.symm.trans found
    exact absurd last inner
  · cases h.symm.trans failed

/-- On a bad character reading fails for ever. -/
theorem read_of_error {cursor here : Cursor} {failure : LexError}
    (h : read cursor = .error failure here) : read here = .error failure here := by
  rcases readHere_cases cursor.skipBlanks with ⟨_, ended⟩ | ⟨_, _, found, _⟩ | ⟨_, failed⟩
  · cases h.symm.trans ended
  · cases h.symm.trans found
  · cases h.symm.trans failed
    rw [read_skipBlanks, h]

end Cursor

end ModuleLang
