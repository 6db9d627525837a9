import ModuleLang.Proofs.Token.Indexed
import ModuleLang.Proofs.Token.Position
import ModuleLang.Language.Lexical

/-!
# `Proofs.Token.Bounds` — indices stay in range, and reading makes progress

The place of an indexed reader is counted up without a look at the end of the text, and its loops have no counter.
Still every access is in range, whatever was asked of the reader before, and as many tokens can be looked at or
scanned as the text has characters, and the end token.

## Contents
- **How reading one token ends** (`IndexedCursor.Ends`, `ends_read`): behind a token that is not empty, at the end of the
  text, or on a bad character. In the last two cases it ends there again (`read_begin`).
- **The number of tokens** (`TokenStream.length_tokens_le`, `Lookahead.length_peekUntil_le`): a look sees the tokens of the
  stream from some place on.
- **`accesses_inRange`**: after any session on any text.
-/

namespace ModuleLang

open Unicode (isWhiteSpace)

/-! ## How reading one token ends -/

namespace IndexedCursor

variable {text : Array Char}

/-- **How reading one token ends**, and where it leaves the cursor. -/
inductive Ends (cursor : IndexedCursor text) : EStateM.Result Stop (IndexedCursor text) Token → Prop where
  /-- Behind a token that is not empty. The cursor has gone on. -/
  | behind {token : Token} {behind : IndexedCursor text} : token.kind ≠ .eof → token.lexeme ≠ "" →
      cursor.current < behind.current → behind.InRange → Ends cursor (.ok token behind)
  /-- At the end of the text, where the cursor stays: the same token is read again. -/
  | atEnd {last : Token} {here : IndexedCursor text} : last.kind = .eof → here.current = text.size →
      here.InRange → read here = .ok last here → Ends cursor (.ok last here)
  /-- On a character that no token begins with, where the cursor stays: reading fails again. -/
  | onStray {failure : LexError} {here : IndexedCursor text} : text[here.current]? = some failure.character →
      failure.location = here.location → Stray failure.character → cursor.current ≤ here.current → here.InRange →
      read here = .error (.failed failure) here → Ends cursor (.error (.failed failure) here)

theorem not_blank_skipBlanks (cursor : IndexedCursor text) (h : cursor.skipBlanks.current < text.size) :
    isWhiteSpace cursor.skipBlanks.char = false := by
  fun_induction skipBlanks cursor with
  | case1 cursor hmore ih => exact ih h
  | case2 cursor hend => simpa [isAtEnd, h] using hend

/-- Where a token begins there are no blanks to skip. -/
theorem begin_begin (cursor : IndexedCursor text) : cursor.begin.begin = cursor.begin := by
  have hskip : cursor.begin.skipBlanks = cursor.begin :=
    skipBlanks_of_char fun hlt => cursor.not_blank_skipBlanks hlt
  rw [begin, hskip]
  rfl

/-- Blanks in front of a token make no difference to reading it. -/
theorem read_begin (cursor : IndexedCursor text) : read cursor.begin = readHere cursor.begin := by
  rw [read, begin_begin]

/-- **Every read makes progress**, or has come to its end. -/
theorem ends_read {cursor : IndexedCursor text} (hvalid : cursor.InRange) : cursor.Ends (read cursor) := by
  have hskip : cursor.current ≤ cursor.begin.current := cursor.current_skipBlanks
  have hrange : cursor.begin.current ≤ text.size := current_skipBlanks_le hvalid.current_le
  have hbegin : cursor.begin.InRange := ⟨Nat.le_refl _, hrange⟩
  rcases readHere_cases rfl hrange with
    ⟨hpast, hread, -⟩ | ⟨kind, run, behind, hread, hinner, hgoes, htook, -⟩ | ⟨hlt, hread, hread'⟩
  · rw [read, hread]
    exact .atEnd rfl (Nat.le_antisymm hrange hpast) hbegin (by rw [read_begin, hread])
  · rw [read, hread]
    refine .behind hinner (fun hempty => ?_) (Nat.lt_of_le_of_lt hskip hgoes) (htook.inRange hrange)
    -- the run has as many characters as the cursor went on
    have hnil : run = [] := by simpa using hempty
    have hcurrent := htook.current_eq
    rw [hnil, List.length_nil] at hcurrent
    omega
  · rw [read, hread]
    obtain ⟨c, rest, -, hfailure, -, hmark, hdigit, hletter⟩ := Cursor.readHere_error_class hread'
    cases hfailure
    have hcharacter : text[cursor.begin.current]? = some cursor.begin.char := by
      rw [char, Array.getElem?_eq_getElem hlt, Option.getD_some]
    have hstray : Stray cursor.begin.char := ⟨cursor.not_blank_skipBlanks hlt, hmark, hdigit, hletter⟩
    exact .onStray hcharacter rfl hstray hskip hbegin (by rw [read_begin, hread])

end IndexedCursor

/-! ## The number of tokens -/

/-- A stream has no more tokens than there are characters, its ending apart. -/
theorem TokenStream.length_tokens_le (cursor : Cursor) : (ofCursor cursor).tokens.length ≤ cursor.rest.length := by
  fun_induction ofCursor cursor with
  | case1 => exact Nat.zero_le _
  | case2 => exact Nat.zero_le _
  | case3 cursor token behind hread hinner following ih =>
      have hshrinks := Cursor.read_shrinks hread hinner
      have hfollowing : following.tokens.length ≤ behind.rest.length := ih
      show following.tokens.length + 1 ≤ cursor.rest.length
      omega

/-- A token of a row that is not the end token is one of the tokens of the stream. -/
theorem Cursor.lt_length_of_row {cursor : Cursor} {n : Nat} {token : Token} (h : cursor.row n = .ok token)
    (hinner : token.kind ≠ .eof) : n < (TokenStream.ofCursor cursor).tokens.length := by
  rw [row_eq_nth, TokenStream.nth] at h
  split at h
  case h_1 found => exact (List.getElem?_eq_some_iff.mp found).1
  case h_2 => exact absurd ((TokenStream.proper_ofCursor cursor).last token h) hinner

namespace Lookahead

/-- A session leaves the row behind the tokens that were taken. -/
theorem row_session (requests : List Request) (reader : Lookahead) :
    ∃ count, (session perform reader requests).2.row = reader.row.drop count := by
  induction requests generalizing reader with
  | nil => exact ⟨0, (Row.drop_zero _).symm⟩
  | cons request requests ih =>
      obtain ⟨reply, left, hperform, -, hrow⟩ := perform_row request reader
      obtain ⟨count, hcount⟩ := ih left
      refine ⟨request.takes reply + count, ?_⟩
      rw [session_conclude hperform, hcount, hrow, Row.drop_drop]

/-- **A look sees no more tokens than the text has characters**, and the end token. -/
theorem length_peekUntil_le {source : String} {stop : List TokenKind} {reader left : Lookahead} {count : Nat}
    {tokens : List Token} (hrow : reader.row = (Cursor.ofSource source).row.drop count)
    (h : peekUntil stop reader = .ok tokens left) : tokens.length ≤ source.length + 1 := by
  obtain ⟨result, left', hlook, hsees, -⟩ := peekUntil_row stop reader
  obtain ⟨rfl, -⟩ := conclude_inj (hlook.symm.trans h : conclude result left' = conclude (.ok tokens) left)
  cases hsees with
  | @found place last _ hpass hlast hstops hlength htokens =>
      cases place with
      | zero => omega
      | succ place =>
          -- the token in front of the last one was passed, so it is not the end token
          obtain ⟨token, htoken, hpasses⟩ := hpass place (Nat.lt_succ_self place)
          rw [hrow] at htoken
          have hlt := Cursor.lt_length_of_row htoken fun hend => hpasses (.inl hend)
          have hle : _ ≤ source.toList.length := TokenStream.length_tokens_le (Cursor.ofSource source)
          rw [String.length_toList] at hle
          omega

end Lookahead

theorem length_scan_le {source : String} {tokens : List Token} (h : scan source = .ok tokens) :
    tokens.length ≤ source.length + 1 := by
  obtain ⟨last, -, rfl⟩ := scan_eq_ok_iff.mp h
  have hle : _ ≤ source.toList.length := TokenStream.length_tokens_le (Cursor.ofSource source)
  rw [String.length_toList] at hle
  rw [List.length_append, List.length_singleton]
  exact Nat.succ_le_succ hle

/-! ## Every session on a text -/

/-- **Indices stay in range.** A session of the indexed reader gives the answers of the lookahead reader, and leaves what
    the lookahead reader leaves. None of its accesses is out of range, and its cursor is in range afterwards. From any
    cursor that is in range, reading one token goes on by a token that is not empty, or stays at the end of the text or on
    a bad character; the cursor that it leaves is in range again. So a look sees, and a scan gives, no more tokens than the
    text has characters and the end token. -/
theorem accesses_inRange (source : String) (requests : List Lookahead.Request) :
    let answers := (session IndexedReader.perform (IndexedReader.ofSource source) requests).1
    let reader := (session IndexedReader.perform (IndexedReader.ofSource source) requests).2
    answers = ((Lookahead.ofSource source).answers requests).map (Except.mapError Stop.failed) ∧
    reader.view = (session Lookahead.perform (Lookahead.ofSource source) requests).2 ∧
    (∀ access, .error (.outside access) ∉ answers) ∧
    reader.cursor.InRange ∧
    (∀ cursor : IndexedCursor source.toList.toArray, cursor.InRange → cursor.Ends cursor.read) ∧
    (∀ stop tokens left, reader.peekUntil stop = .ok tokens left → tokens.length ≤ source.length + 1) ∧
    IndexedReader.scan source = (scan source).mapError Stop.failed ∧
    ∀ tokens, IndexedReader.scan source = .ok tokens → tokens.length ≤ source.length + 1 := by
  intro answers reader
  have hstart : (IndexedReader.ofSource source).InRange := IndexedCursor.inRange_origin
  obtain ⟨hanswers, hview, hvalid⟩ := Simulates.session IndexedReader.simulates_perform requests hstart
  rw [IndexedReader.view_ofSource] at hanswers hview
  refine ⟨hanswers, hview, ?_, hvalid, fun cursor => IndexedCursor.ends_read, ?_, IndexedReader.scan_eq source, ?_⟩
  · intro access hmem
    rw [show answers = _ from hanswers] at hmem
    obtain ⟨answer, -, hanswer⟩ := List.mem_map.mp hmem
    cases answer <;> cases hanswer
  · intro stop tokens left hlook
    have hagrees := IndexedReader.simulates_peekUntil stop reader hvalid
    rw [show IndexedReader.peekUntil stop reader = _ from hlook] at hagrees
    obtain ⟨count, hrow⟩ := Lookahead.row_session requests (Lookahead.ofSource source)
    rw [← hview] at hrow
    exact Lookahead.length_peekUntil_le hrow hagrees.of_ok.1
  · intro tokens hscan
    rw [IndexedReader.scan_eq] at hscan
    cases hscan' : scan source with
    | ok tokens' =>
        rw [hscan'] at hscan
        cases hscan
        exact length_scan_le hscan'
    | error failure =>
        rw [hscan'] at hscan
        cases hscan

/-- Whether a result is a given value in a given state can be decided, also where errors cannot be compared. -/
instance decidableEqResult {ε σ α : Type} [DecidableEq σ] [DecidableEq α] (a : α) (state : σ) :
    (result : EStateM.Result ε σ α) → Decidable (result = .ok a state)
  | .error _ _ => .isFalse nofun
  | .ok found left => decidable_of_iff (found = a ∧ left = state) (by rw [EStateM.Result.ok.injEq])

/-- A look that fails leaves two tokens queued, and the cursor on the bad character at the end of the text. One of the tokens
    is taken, and a look sees the other one. -/
theorem accesses_inRange_behind_failure :
    let reader := (session IndexedReader.perform (IndexedReader.ofSource "x 42 #") [.peekNth 4, .next]).2
    let number : Token := ⟨.number, "42", ⟨0, 2, 2⟩⟩
    reader.cursor.InRange ∧ reader.cursor.current = 5 ∧ reader.cursor.Ends reader.cursor.read ∧
      reader.peekUntil [.number] = .ok [number] reader ∧ [number].length ≤ "x 42 #".length + 1 ∧
      (∃ tokens, IndexedReader.scan "x 42" = .ok tokens ∧ tokens.length ≤ "x 42".length + 1) := by
  intro reader number
  obtain ⟨-, -, -, hvalid, hends, hlook, -⟩ := accesses_inRange "x 42 #" [.peekNth 4, .next]
  obtain ⟨-, -, -, -, -, -, -, hscan⟩ := accesses_inRange "x 42" []
  have hseen : reader.peekUntil [.number] = .ok [number] reader := by decide +kernel
  have hscanned : IndexedReader.scan "x 42" =
      .ok [⟨.identifier, "x", ⟨0, 0, 0⟩⟩, number, ⟨.eof, "", ⟨0, 4, 4⟩⟩] := by decide +kernel
  exact ⟨hvalid, by decide +kernel, hends _ hvalid, hseen, hlook _ _ _ hseen, _, hscanned, hscan _ hscanned⟩

end ModuleLang
