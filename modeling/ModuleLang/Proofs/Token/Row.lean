import ModuleLang.Token.Lookahead
import ModuleLang.Token.Stream

/-!
# `Proofs.Token.Row` — the endless row of answers

Reading token after token from a place in a text gives an endless row of answers. Everything that can be
asked of a reader is a question about this row, so the statements about readers and parsers are made in
terms of it.

## Contents
- **`Row`**, with `Row.cons` and `Row.drop`: a token in front of a row, and a row without its first answers.
- **The row of a cursor** (`Cursor.row`): one read takes one answer off it (`row_of_read`), and a
  failure repeats for ever (`row_of_error`).
- **The row settles** (`row_settles`): tokens, and then the same end token or the same failure for ever.
- **Reading several tokens** moves them from the front of the cursor's row to a list (`row_readMany`,
  `row_readThrough`), whether the reading is stopped or not.
- **The tokens of a stream** (`TokenStream.all_append`), cut in two.
-/

namespace ModuleLang

/-- An endless row of answers. -/
abbrev Row := Nat → Except LexError Token

namespace Row

/-- A token in front of a row. -/
def cons (token : Token) (row : Row) : Row
  | 0 => .ok token
  | n + 1 => row n

/-- The row behind its first `count` answers. -/
def drop (count : Nat) (row : Row) : Row := fun n => row (count + n)

/-- The row that is the same failure for ever. -/
def failing (failure : LexError) : Row := fun _ => .error failure

@[simp] theorem cons_zero (token : Token) (row : Row) : cons token row 0 = .ok token := rfl

@[simp] theorem cons_succ (token : Token) (row : Row) (n : Nat) : cons token row (n + 1) = row n := rfl

@[simp] theorem drop_zero (row : Row) : row.drop 0 = row := by
  funext n
  simp [drop]

theorem drop_drop (first second : Nat) (row : Row) :
    (row.drop first).drop second = row.drop (first + second) := by
  funext n
  simp only [drop, Nat.add_assoc]

@[simp] theorem drop_one_cons (token : Token) (row : Row) : (cons token row).drop 1 = row := by
  funext n
  simp only [drop, Nat.add_comm 1 n, cons_succ]

/-- The tokens in front of a row are its first answers. -/
theorem foldr_cons_lt {tokens : List Token} {row : Row} {n : Nat} (hn : n < tokens.length) :
    tokens.foldr cons row n = .ok tokens[n] := by
  induction tokens generalizing n with
  | nil => exact absurd hn (Nat.not_lt_zero n)
  | cons token tokens ih =>
      cases n with
      | zero => rfl
      | succ n => exact ih (Nat.lt_of_succ_lt_succ hn)

/-- Behind the tokens in front of a row comes the row. -/
theorem foldr_cons_add (tokens : List Token) (row : Row) (n : Nat) :
    tokens.foldr cons row (tokens.length + n) = row n := by
  induction tokens with
  | nil => rw [List.length_nil, Nat.zero_add, List.foldr_nil]
  | cons token tokens ih =>
      rw [List.length_cons, Nat.add_right_comm, List.foldr_cons, cons_succ, ih]

end Row

/-! ## The row of a cursor -/

namespace Cursor

/-- The row of answers that reading again and again from a place gives. -/
def row (cursor : Cursor) : Row := fun n => cursor.answer n

/-- **One read takes one answer.** What was read stands in front of the row that is left. -/
theorem row_of_read {cursor behind : Cursor} {token : Token}
    (hread : cursor.read = .ok token behind) :
    cursor.row = Row.cons token behind.row := by
  funext n
  cases n with
  | zero => rw [row, answer, hread]; rfl
  | succ n => rw [row, answer, hread]; rfl

/-- **A failure repeats.** The cursor stays on the bad character, so every later answer is the same. -/
theorem row_of_error {cursor here : Cursor} {failure : LexError}
    (hread : cursor.read = .error failure here) : cursor.row = Row.failing failure := by
  funext n
  induction n generalizing cursor here with
  | zero => rw [row, answer, hread]; rfl
  | succ n ih =>
      rw [row, answer, hread]
      -- the failed read left the cursor on the bad character, so the next read fails alike
      exact ih (read_of_error hread)

/-- A failed read leaves the same row. -/
theorem row_here {cursor here : Cursor} {failure : LexError}
    (hread : cursor.read = .error failure here) : here.row = cursor.row := by
  rw [row_of_error hread, row_of_error (read_of_error hread)]

end Cursor

/-! ## The row settles -/

namespace TokenStream

/-- A stream whose end token, if it has one, is at its end and nowhere else. -/
structure Proper (stream : TokenStream) : Prop where
  /-- No token before the ending is an end token. -/
  inner : ∀ token ∈ stream.tokens, token.kind ≠ .eof
  /-- If the ending is a token, it is an end token. -/
  last : ∀ token, stream.ending = .ok token → token.kind = .eof

/-- The stream of a cursor is proper. -/
theorem proper_ofCursor (cursor : Cursor) : (ofCursor cursor).Proper := by
  fun_induction ofCursor cursor with
  | case1 cursor failure here hread => exact ⟨nofun, nofun⟩
  | case2 cursor token behind hread hlast =>
      refine ⟨nofun, fun last hending => ?_⟩
      cases hending
      exact hlast
  | case3 cursor token behind hread hinner following ih =>
      refine ⟨fun other hmem => ?_, ih.last⟩
      rcases List.mem_cons.mp hmem with rfl | hmem
      · exact hinner
      · exact ih.inner other hmem

theorem all_append (taken rest : List Token) (ending : Except LexError Token) :
    all ⟨taken ++ rest, ending⟩ = taken ++ all ⟨rest, ending⟩ := by
  cases ending with
  | ok last => exact List.append_assoc taken rest [last]
  | error failure => rfl

/-- The answers of a stream: its tokens, and then its ending for ever. -/
theorem nth_eq_foldr (stream : TokenStream) :
    stream.nth = stream.tokens.foldr Row.cons fun _ => stream.ending := by
  obtain ⟨tokens, ending⟩ := stream
  funext n
  induction tokens generalizing n with
  | nil => rfl
  | cons token tokens ih =>
      cases n with
      | zero => rfl
      | succ n => exact ih n

end TokenStream

theorem Cursor.row_eq_nth (cursor : Cursor) : cursor.row = (TokenStream.ofCursor cursor).nth := by
  funext n
  exact (TokenStream.nth_ofCursor cursor n).symm

/-- Tokens up to some place, and from there the same end token or the same failure for ever. -/
def Row.Settles (row : Row) : Prop :=
  ∃ count,
    (∀ n < count, ∃ token, row n = .ok token ∧ token.kind ≠ .eof) ∧
    ((∃ last : Token, last.kind = .eof ∧ ∀ n, row (count + n) = .ok last) ∨
      ∃ failure, ∀ n, row (count + n) = .error failure)

/-- **The row of a cursor settles.** -/
theorem Cursor.row_settles (cursor : Cursor) : cursor.row.Settles := by
  have hproper := TokenStream.proper_ofCursor cursor
  rw [row_eq_nth, TokenStream.nth_eq_foldr]
  refine ⟨(TokenStream.ofCursor cursor).tokens.length, fun n hn => ?_, ?_⟩
  · exact ⟨_, Row.foldr_cons_lt hn, hproper.inner _ (List.getElem_mem hn)⟩
  · cases hending : (TokenStream.ofCursor cursor).ending with
    | ok last =>
        exact .inl ⟨last, hproper.last last hending, fun n => Row.foldr_cons_add _ _ n⟩
    | error failure => exact .inr ⟨failure, fun n => Row.foldr_cons_add _ _ n⟩

/-! ## Reading several tokens -/

/-- The tokens of a reading, in front of the row of the cursor that it leaves. -/
def Reading.row (reading : Reading) : Row :=
  reading.tokens.foldr Row.cons reading.cursor.row

/-- A token at which a look ahead ends: one of the given kinds, or the end token. -/
def Token.Stops (stop : List TokenKind) (token : Token) : Prop :=
  token.kind = .eof ∨ token.kind ∈ stop

namespace Cursor

/-- **Reading ahead loses nothing.** The tokens read and what is left are the row that was there. -/
theorem row_readMany (count : Nat) (cursor : Cursor) :
    (cursor.readMany count).row = cursor.row := by
  induction count generalizing cursor with
  | zero => rfl
  | succ count ih =>
      unfold readMany
      split
      case h_1 failure here hread => exact row_here hread
      case h_2 token behind hread => rw [row_of_read hread, ← ih behind]; rfl

/-- A reading that was stopped has fewer tokens than were asked for, and leaves the failure that stopped
    it, for ever. -/
theorem readMany_stopped {count : Nat} {cursor : Cursor} {failure : LexError}
    (hstopped : (cursor.readMany count).failure? = some failure) :
    (cursor.readMany count).tokens.length < count ∧
      (cursor.readMany count).cursor.row = Row.failing failure := by
  induction count generalizing cursor with
  | zero => cases hstopped
  | succ count ih =>
      unfold readMany at hstopped ⊢
      split at hstopped
      case h_1 here hread =>
        cases hstopped
        exact ⟨Nat.succ_pos count, row_of_error (read_of_error hread)⟩
      case h_2 token behind hread =>
        obtain ⟨hlength, hleft⟩ := ih hstopped
        exact ⟨Nat.succ_lt_succ hlength, hleft⟩

theorem row_readThrough (stop : List TokenKind) (cursor : Cursor) :
    (cursor.readThrough stop).row = cursor.row := by
  fun_induction readThrough stop cursor with
  | case1 cursor failure here hread => exact row_here hread
  | case2 cursor token behind hread hstops => rw [row_of_read hread]; rfl
  | case3 cursor token behind hread hpasses following ih =>
      rw [row_of_read hread, ← ih]
      rfl

/-- **Reading through.** Either the last token read is the first at which to stop, or none of the tokens is
    one and the reading was stopped by a failure. -/
theorem readThrough_cases (stop : List TokenKind) (cursor : Cursor) :
    (∃ seen last, (cursor.readThrough stop).failure? = none ∧
      (cursor.readThrough stop).tokens = seen ++ [last] ∧
      (∀ token ∈ seen, ¬ token.Stops stop) ∧ last.Stops stop) ∨
    (∃ failure, (cursor.readThrough stop).failure? = some failure ∧
      (∀ token ∈ (cursor.readThrough stop).tokens, ¬ token.Stops stop) ∧
      (cursor.readThrough stop).cursor.row = Row.failing failure) := by
  fun_induction readThrough stop cursor with
  | case1 cursor failure here hread =>
      exact .inr ⟨failure, rfl, nofun, row_of_error (read_of_error hread)⟩
  | case2 cursor token behind hread hstops =>
      exact .inl ⟨[], token, rfl, rfl, nofun, hstops⟩
  | case3 cursor token behind hread hpasses following ih =>
      rcases ih with ⟨seen, last, hcomplete, htokens, hseen, hlast⟩ | ⟨failure, hstopped, hseen, hleft⟩
      · -- `token` was passed, so the first token at which to stop is still `last`
        refine .inl ⟨token :: seen, last, hcomplete, ?_, ?_, hlast⟩
        · exact congrArg (token :: ·) htokens
        · exact List.forall_mem_cons.mpr ⟨hpasses, hseen⟩
      · exact .inr ⟨failure, hstopped, List.forall_mem_cons.mpr ⟨hpasses, hseen⟩, hleft⟩

end Cursor

end ModuleLang
