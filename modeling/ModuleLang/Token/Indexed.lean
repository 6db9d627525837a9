import ModuleLang.Session
import ModuleLang.Token.Lookahead

/-!
# `Token.Indexed` — reading a text by index

The lookahead reader of a text that is kept in an array. A place in the text is an index, and nothing checks
the index when it is counted up: behind the text a null character seems to stand, which belongs to no class of
characters, so that the loops over a class end there. Characters and queued tokens are taken by index too, and an
access that is out of range stops the reader.

## Contents
- **`Access`**, `Access.InRange`, `guarded`: access by index. **`Stop`**: a bad character, or an access that is out of
  range.
- **`IndexedCursor`** with `read`: one token. Reading does not go back, and goes on by each token but the end token
  (`current_of_read`).
- **`IndexedReader`** with `next`, `peek`, `peekNth`, `peekUntil`, `perform` and `scan`. The loops of `peekUntil` and
  `scan` have no counter. They end because there is less and less in front of the reader (`ahead_fill`,
  `ahead_next`).
-/

namespace ModuleLang

open Unicode (isWhiteSpace)

/-! ## Accesses -/

/-- An access by index, with the size of what it goes to. -/
inductive Access where
  /-- The characters of a text from `start` up to `stop`. -/
  | characters (start stop size : Nat)
  /-- The token at a place in a queue. -/
  | token (place size : Nat)
  /-- The first `count` tokens of a queue. -/
  | tokens (count size : Nat)
deriving DecidableEq

/-- An access is in range if all that it asks for is there. -/
def Access.InRange : Access → Prop
  | characters start stop size => start ≤ stop ∧ stop ≤ size
  | token place size => place < size
  | tokens count size => count ≤ size

instance Access.decidableInRange : (access : Access) → Decidable access.InRange
  | characters start stop size => inferInstanceAs (Decidable (start ≤ stop ∧ stop ≤ size))
  | token place size => inferInstanceAs (Decidable (place < size))
  | tokens count size => inferInstanceAs (Decidable (count ≤ size))

/-- Why a reader stops. -/
inductive Stop where
  /-- No token begins with the next character. -/
  | failed (failure : LexError)
  /-- An access was out of range. -/
  | outside (access : Access)
deriving DecidableEq

/-- What an access finds. An access that is out of range stops the reader. -/
def guarded {σ α : Type} (access : Access) (found : access.InRange → α) : EStateM Stop σ α := fun state =>
  if inRange : access.InRange then .ok (found inRange) state else .error (.outside access) state

theorem guarded_ok {σ α : Type} {access : Access} {found : access.InRange → α} {a : α} {state left : σ}
    (h : guarded access found state = .ok a left) : ∃ inRange, a = found inRange ∧ left = state := by
  unfold guarded at h
  split at h
  case isTrue inRange =>
    cases h
    exact ⟨inRange, rfl, rfl⟩
  case isFalse => cases h

/-! ## Cursors -/

/-- A place in a text, and the place where the last token began. -/
structure IndexedCursor (text : Array Char) where
  /-- The index of the first character of the token. -/
  start : Nat
  /-- The index of the next character. -/
  current : Nat
  /-- The number of lines that were passed. -/
  line : Nat
  /-- The number of characters that were passed on the line. -/
  column : Nat
deriving DecidableEq

namespace IndexedCursor

variable {text : Array Char}

/-- The cursor in front of the text. -/
def origin : IndexedCursor text := ⟨0, 0, 0, 0⟩

/-- Whether there is no next character. -/
def isAtEnd (cursor : IndexedCursor text) : Bool :=
  text.size ≤ cursor.current

/-- The next character. Behind the text it is the null character. -/
def char (cursor : IndexedCursor text) : Char :=
  text[cursor.current]?.getD '\x00'

/-- Where the next character stands. -/
def location (cursor : IndexedCursor text) : Location :=
  ⟨cursor.line, cursor.column, cursor.current⟩

/-- Counts up the index, whether or not there is a next character. -/
def advance (cursor : IndexedCursor text) : IndexedCursor text :=
  { cursor with current := cursor.current + 1, column := cursor.column + 1 }

/-- Passes a character that may end a line. -/
def pass (cursor : IndexedCursor text) : IndexedCursor text :=
  if cursor.char = '\n' then { cursor.advance with line := cursor.line + 1, column := 0 }
  else cursor.advance

theorem current_pass (cursor : IndexedCursor text) : cursor.pass.current = cursor.current + 1 := by
  unfold pass
  split <;> rfl

/-- The cursor behind the blanks that it stands in front of. -/
def skipBlanks (cursor : IndexedCursor text) : IndexedCursor text :=
  if _more : !cursor.isAtEnd && isWhiteSpace cursor.char then skipBlanks cursor.pass else cursor
termination_by text.size - cursor.current
decreasing_by
  simp only [isAtEnd, Bool.and_eq_true, Bool.not_eq_true', decide_eq_false_iff_not] at _more
  rw [current_pass]
  omega

/-- A class to which the null character does not belong has no character behind the text. -/
theorem lt_of_char {p : Char → Bool} (hnull : p '\x00' = false) {cursor : IndexedCursor text}
    (h : p cursor.char = true) : cursor.current < text.size := by
  rcases Nat.lt_or_ge cursor.current text.size with hlt | hend
  · exact hlt
  · rw [char, Array.getElem?_eq_none hend, Option.getD_none, hnull] at h
    cases h

/-- The cursor behind the characters of a class that it stands in front of. The end of the text is not looked
    for. -/
def munch (p : Char → Bool) (hnull : p '\x00' = false) (cursor : IndexedCursor text) : IndexedCursor text :=
  if _more : p cursor.char then munch p hnull cursor.advance else cursor
termination_by text.size - cursor.current
decreasing_by
  have hlt := lt_of_char hnull _more
  show text.size - (cursor.current + 1) < text.size - cursor.current
  omega

/-! ### Reading one token -/

theorem isDigit_null : isDigit '\x00' = false := by decide

theorem isWordCharacter_null : isWordCharacter '\x00' = false := by decide

/-- The characters from the start of the token up to the cursor. -/
def lexeme : EStateM Stop (IndexedCursor text) String := fun cursor =>
  guarded (.characters cursor.start cursor.current text.size)
    (fun _ => .ofList (text.extract cursor.start cursor.current).toList) cursor

/-- Takes a mark. -/
def mark (kind : TokenKind) : EStateM Stop (IndexedCursor text) TokenKind := fun cursor =>
  .ok kind cursor.advance

/-- Takes a number. -/
def number : EStateM Stop (IndexedCursor text) TokenKind := fun cursor =>
  .ok .number (cursor.munch isDigit isDigit_null)

/-- Takes a word. -/
def word : EStateM Stop (IndexedCursor text) TokenKind := do
  modify (munch isWordCharacter isWordCharacter_null)
  return .ofWord (← lexeme)

/-- Takes what begins with the next character. -/
def takeKind : EStateM Stop (IndexedCursor text) TokenKind := fun here =>
  match TokenKind.punctuation? here.char with
  | some kind => mark kind here
  | none =>
      if isDigit here.char then number here
      else if isWordCharacter here.char then word here
      else .error (.failed ⟨here.char, here.location⟩) here

/-- The cursor behind the blanks, where the next token begins. -/
def begin (cursor : IndexedCursor text) : IndexedCursor text :=
  { cursor.skipBlanks with start := cursor.skipBlanks.current }

/-- Reads the token that begins at the cursor. -/
def readHere : EStateM Stop (IndexedCursor text) Token := do
  let here ← get
  if here.isAtEnd then return ⟨.eof, "", here.location⟩
  let kind ← takeKind
  return ⟨kind, ← lexeme, here.location⟩

/-- Reads one token behind any blanks. -/
def read : EStateM Stop (IndexedCursor text) Token := fun cursor =>
  readHere cursor.begin

/-! ### Reading goes on -/

theorem current_skipBlanks (cursor : IndexedCursor text) : cursor.current ≤ cursor.skipBlanks.current := by
  fun_induction skipBlanks cursor with
  | case1 cursor hmore ih =>
      rw [current_pass] at ih
      omega
  | case2 cursor hend => exact Nat.le_refl _

theorem current_munch {p : Char → Bool} {hnull : p '\x00' = false} (cursor : IndexedCursor text) :
    cursor.current ≤ (cursor.munch p hnull).current := by
  fun_induction munch p hnull cursor with
  | case1 cursor hmore ih => exact Nat.le_of_succ_le ih
  | case2 cursor hend => exact Nat.le_refl _

/-- A run of a class that begins with the next character is not empty. -/
theorem lt_current_munch {p : Char → Bool} {hnull : p '\x00' = false} {cursor : IndexedCursor text}
    (h : p cursor.char = true) : cursor.current < (cursor.munch p hnull).current := by
  rw [munch, dif_pos h]
  exact cursor.advance.current_munch

theorem lexeme_ok {cursor behind : IndexedCursor text} {found : String}
    (h : lexeme cursor = .ok found behind) : behind = cursor := by
  obtain ⟨-, -, hleft⟩ := guarded_ok h
  exact hleft

theorem takeKind_ok {here behind : IndexedCursor text} {kind : TokenKind}
    (h : takeKind here = .ok kind behind) : kind ≠ .eof ∧ here.current < behind.current := by
  unfold takeKind at h
  split at h
  case h_1 mark hmark =>
    cases h
    refine ⟨?_, Nat.lt_succ_self _⟩
    rintro rfl
    exact TokenKind.punctuation?_ne_eof hmark
  case h_2 =>
    split at h
    case isTrue hdigit =>
      cases h
      exact ⟨nofun, lt_current_munch hdigit⟩
    case isFalse =>
      split at h
      case isTrue hletter =>
        obtain ⟨_, run, hrun, hrest⟩ := bind_ok h
        obtain ⟨found, left, hlexeme, hpure⟩ := bind_ok hrest
        cases hrun
        cases lexeme_ok hlexeme
        cases hpure
        exact ⟨TokenKind.ofWord_ne_eof _, lt_current_munch hletter⟩
      case isFalse => cases h

/-- **Reading does not go back**, and goes on by each token but the end token. -/
theorem current_of_read {cursor behind : IndexedCursor text} {token : Token} (h : read cursor = .ok token behind) :
    cursor.current ≤ behind.current ∧
      (token.kind ≠ .eof → cursor.current < text.size ∧ cursor.current < behind.current) := by
  have hskip : cursor.current ≤ cursor.begin.current := cursor.current_skipBlanks
  unfold read readHere at h
  obtain ⟨here, left, hget, hrest⟩ := bind_ok h
  cases hget
  split at hrest
  case isTrue =>
    cases hrest
    exact ⟨hskip, fun hinner => absurd rfl hinner⟩
  case isFalse hmore =>
    have hlt : cursor.begin.current < text.size := by simpa [isAtEnd] using hmore
    obtain ⟨kind, left, hkind, hrest⟩ := bind_ok hrest
    obtain ⟨found, left', hlexeme, hpure⟩ := bind_ok hrest
    obtain ⟨-, hgoes⟩ := takeKind_ok hkind
    cases lexeme_ok hlexeme
    cases hpure
    exact ⟨by omega, fun _ => ⟨by omega, by omega⟩⟩

end IndexedCursor

/-! ## Readers -/

/-- A place in a text, with the tokens that were read ahead of it. -/
structure IndexedReader (text : Array Char) where
  /-- Tokens that were looked at but not taken, the next one first. -/
  queue : List Token
  /-- The place behind the queued tokens. -/
  cursor : IndexedCursor text
deriving DecidableEq

namespace IndexedReader

open Lookahead (Request Answer inner)

variable {text : Array Char}

/-- The reader in front of a text. -/
def ofSource (source : String) : IndexedReader source.toList.toArray :=
  ⟨[], .origin⟩

/-- Takes the next token: the first of the queue, else a new one from the text. -/
def next : EStateM Stop (IndexedReader text) Token := fun reader =>
  match reader.queue with
  | token :: queue => .ok token { reader with queue }
  | [] =>
      match reader.cursor.read with
      | .ok token behind => .ok token { reader with cursor := behind }
      | .error stop here => .error stop { reader with cursor := here }

/-- Reads on until at least `count` tokens are queued. -/
def fill (count : Nat) (reader : IndexedReader text) : EStateM.Result Stop (IndexedReader text) Unit :=
  if reader.queue.length < count then
    match reader.cursor.read with
    | .ok token behind => fill count ⟨reader.queue ++ [token], behind⟩
    | .error stop here => .error stop { reader with cursor := here }
  else .ok () reader
termination_by count - reader.queue.length
decreasing_by
  simp only [List.length_append, List.length_singleton]
  omega

/-- The token at a place in the queue. -/
def tokenAt (place : Nat) : EStateM Stop (IndexedReader text) Token := fun reader =>
  guarded (.token place reader.queue.length) (fun inRange => reader.queue.get ⟨place, inRange⟩) reader

/-- The first tokens of the queue. -/
def firstTokens (count : Nat) : EStateM Stop (IndexedReader text) (List Token) := fun reader =>
  guarded (.tokens count reader.queue.length) (fun _ => reader.queue.take count) reader

/-- Looks at the token `n` places behind the next one. -/
def peekNth (n : Nat) : EStateM Stop (IndexedReader text) Token := do
  fill (n + 1)
  tokenAt n

/-- Looks at the next token. -/
def peek : EStateM Stop (IndexedReader text) Token :=
  peekNth 0

/-- What is in front of a reader behind the first `seen` tokens of its queue: the queued tokens that are not the end
    token, and the characters of the text. -/
def ahead (seen : Nat) (reader : IndexedReader text) : Nat :=
  inner (reader.queue.drop seen) + (text.size - reader.cursor.current)

/-- A token that is queued was in front of the reader before. -/
theorem ahead_concat {seen : Nat} {reader : IndexedReader text} {token : Token} {behind : IndexedCursor text}
    (h : reader.cursor.read = .ok token behind) :
    ahead seen ⟨reader.queue ++ [token], behind⟩ ≤ reader.ahead seen := by
  have hdrop : inner ((reader.queue ++ [token]).drop seen) ≤ inner (reader.queue.drop seen) + inner [token] := by
    rw [List.drop_append, Lookahead.inner_append]
    exact Nat.add_le_add_left (List.Sublist.countP_le (List.drop_sublist _ _)) _
  obtain ⟨hle, hlt⟩ := IndexedCursor.current_of_read h
  have hnil : inner [] = 0 := rfl
  simp only [ahead]
  by_cases hlast : token.kind = .eof
  · rw [Lookahead.inner_cons, if_pos hlast] at hdrop
    omega
  · have hgoes := hlt hlast
    rw [Lookahead.inner_cons, if_neg hlast] at hdrop
    omega

theorem ahead_fill {count seen : Nat} {reader filled : IndexedReader text}
    (h : fill count reader = .ok () filled) : filled.ahead seen ≤ reader.ahead seen := by
  fun_induction fill count reader with
  | case1 reader hshort token behind hread ih => exact Nat.le_trans (ih h) (ahead_concat hread)
  | case2 reader hshort stop here hread => cases h
  | case3 reader hlong =>
      cases h
      exact Nat.le_refl _

/-- Behind a token that was looked at, and is not the end token, there is less. -/
theorem ahead_peekNth {seen : Nat} {reader left : IndexedReader text} {token : Token}
    (h : peekNth seen reader = .ok token left) (hinner : token.kind ≠ .eof) :
    left.ahead (seen + 1) < reader.ahead seen := by
  obtain ⟨_, filled, hfill, hat⟩ := bind_ok h
  obtain ⟨hrange, htoken, rfl⟩ := guarded_ok hat
  have hlt : seen < left.queue.length := hrange
  have hkind : left.queue[seen].kind ≠ .eof := by
    rw [htoken] at hinner
    exact hinner
  refine Nat.lt_of_lt_of_le ?_ (ahead_fill hfill)
  rw [ahead, ahead, List.drop_eq_getElem_cons hlt, Lookahead.inner_cons, if_neg hkind]
  omega

/-- Counts the tokens up to and including the first of one of the given kinds, or the end token. The first `seen`
    tokens have been looked at. -/
def countThrough (stop : List TokenKind) (seen : Nat) (reader : IndexedReader text) :
    EStateM.Result Stop (IndexedReader text) Nat :=
  match _found : peekNth seen reader with
  | .error why left => .error why left
  | .ok token left =>
      if _last : token.kind = .eof ∨ token.kind ∈ stop then .ok (seen + 1) left
      else countThrough stop (seen + 1) left
termination_by reader.ahead seen
decreasing_by exact ahead_peekNth _found fun isEnd => _last (.inl isEnd)

/-- Looks at all tokens up to and including the first of one of the given kinds, or the end token. -/
def peekUntil (stop : List TokenKind) : EStateM Stop (IndexedReader text) (List Token) := do
  firstTokens (← countThrough stop 0)

theorem ahead_next {reader behind : IndexedReader text} {token : Token}
    (h : next reader = .ok token behind) (hinner : token.kind ≠ .eof) : behind.ahead 0 < reader.ahead 0 := by
  unfold next at h
  split at h
  case h_1 first queue hqueue =>
    cases h
    simp only [ahead, hqueue, List.drop_zero, Lookahead.inner_cons, if_neg hinner]
    omega
  case h_2 hqueue =>
    split at h
    case h_1 hread =>
      cases h
      obtain ⟨-, hlt⟩ := IndexedCursor.current_of_read hread
      have hgoes := hlt hinner
      simp only [ahead]
      omega
    case h_2 => cases h

/-- Takes all tokens up to and including the end token, and puts them behind those that were taken before. -/
def takeAll (taken : List Token) (reader : IndexedReader text) :
    EStateM.Result Stop (IndexedReader text) (List Token) :=
  match _found : next reader with
  | .error why left => .error why left
  | .ok token left =>
      if _last : token.kind = .eof then .ok (taken ++ [token]) left
      else takeAll (taken ++ [token]) left
termination_by reader.ahead 0
decreasing_by exact ahead_next _found _last

/-- Performs a request. -/
def perform : Request → EStateM Stop (IndexedReader text) Answer
  | .next => return .token (← next)
  | .peek => return .token (← peek)
  | .peekNth n => return .token (← peekNth n)
  | .peekUntil stop => return .tokens (← peekUntil stop)

/-- All tokens of a source text, the last one the end token. -/
def scan (source : String) : Except Stop (List Token) :=
  match takeAll [] (ofSource source) with
  | .ok tokens _ => .ok tokens
  | .error why _ => .error why

end IndexedReader

end ModuleLang
