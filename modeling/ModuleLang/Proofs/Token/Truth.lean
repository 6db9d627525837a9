import Mathlib.Data.List.DropRight
import ModuleLang.Proofs.Token.Position

/-!
# `Proofs.Token.Truth` — what is said about positions is true

A location has three numbers that are counted apart from each other. Each of them says something about the text:
how many characters stand before the place, how many of these are line feeds, and how many stand behind the last line
feed. Whatever is reported at a location, its characters stand there.

## Contents
- **True locations** (`Location.TrueIn`): the location behind the characters that were passed is true.
- **True reports** (`Token.TrueIn`, `LexError.TrueIn`, `TrueReport`): every answer in the row of a source is true
  (`Cursor.row_trueReport`).
- **Order** (`Token.Precedes`): of two tokens in the row of a cursor the first ends where the second begins, or
  before (`Cursor.row_precedes`).
-/

namespace ModuleLang

/-! ## True locations -/

/-- **A location is true** of a text: its three numbers are what can be counted in the text. -/
structure Location.TrueIn (text : List Char) (location : Location) : Prop where
  /-- The place is in the text or at its end. -/
  start_le : location.start ≤ text.length
  /-- The line is the number of line feeds before the place. -/
  line_eq : location.line = (text.take location.start).count '\n'
  /-- The column is the number of characters before the place and behind the last line feed there. -/
  column_eq : location.column = ((text.take location.start).rtakeWhile (· ≠ '\n')).length

namespace Location

theorem line_afterAll (location : Location) (run : List Char) :
    (location.afterAll run).line = location.line + run.count '\n' := by
  induction run generalizing location with
  | nil => rfl
  | cons c run ih =>
      rw [afterAll_cons, ih]
      by_cases hc : c = '\n'
      · rw [after, if_pos hc, hc, List.count_cons_self]
        show location.line + 1 + run.count '\n' = location.line + (run.count '\n' + 1)
        omega
      · rw [after, if_neg hc, List.count_cons_of_ne hc]

/-- The column counts from the last line feed, or from the beginning. -/
theorem column_afterAll (run : List Char) :
    (origin.afterAll run).column = (run.rtakeWhile (· ≠ '\n')).length := by
  induction run using List.reverseRecOn with
  | nil => rfl
  | append_singleton run c ih =>
      rw [afterAll_append, afterAll_cons, afterAll_nil]
      by_cases hc : c = '\n'
      · rw [List.rtakeWhile_concat_neg _ _ _ (by simp [hc]), after, if_pos hc]
        rfl
      · rw [List.rtakeWhile_concat_pos _ _ _ (by simp [hc]), List.length_append, after, if_neg hc, ← ih]
        rfl

/-- **Counting tells the truth**: the location behind the characters that were passed is true. -/
theorem trueIn_afterAll {text before behind : List Char} (htext : text = before ++ behind) :
    (origin.afterAll before).TrueIn text := by
  have hstart : (origin.afterAll before).start = before.length := by
    rw [start_afterAll]
    exact Nat.zero_add _
  have hbefore : text.take (origin.afterAll before).start = before := by
    rw [hstart, htext, List.take_left]
  refine ⟨?_, ?_, ?_⟩
  · rw [hstart, htext, List.length_append]
    omega
  · rw [hbefore, line_afterAll]
    exact Nat.zero_add _
  · rw [hbefore, column_afterAll]

end Location

/-! ## True reports -/

/-- **A token is true** of a text: its location is, its lexeme stands there, and an end token stands at the end. -/
structure Token.TrueIn (text : List Char) (token : Token) : Prop where
  /-- The location of the token is true. -/
  location : token.location.TrueIn text
  /-- From the location on, the text begins with the lexeme. -/
  begins : token.lexeme.toList <+: text.drop token.location.start
  /-- An end token stands behind all characters. -/
  ending : token.kind = .eof → token.location.start = text.length

/-- **A failure is true** of a text: its location is, and its character stands there. -/
structure LexError.TrueIn (text : List Char) (failure : LexError) : Prop where
  /-- The location of the failure is true. -/
  location : failure.location.TrueIn text
  /-- From the location on, the text begins with the character. -/
  begins : [failure.character] <+: text.drop failure.location.start

/-- What is reported, a token or a failure, is true of a text. -/
def TrueReport (text : List Char) : Except LexError Token → Prop
  | .ok token => token.TrueIn text
  | .error failure => failure.TrueIn text

namespace Cursor

/-- A cursor that was reached in a text has a true location, and in front of it is the text from there on. -/
theorem Reaches.trueIn {source : String} {here : Cursor} (h : (ofSource source).Reaches here) :
    here.location.TrueIn source.toList ∧ source.toList.drop here.location.start = here.rest := by
  obtain ⟨passed, htext, hlocation⟩ := h
  change source.toList = passed ++ here.rest at htext
  change here.location = Location.origin.afterAll passed at hlocation
  rw [hlocation]
  refine ⟨Location.trueIn_afterAll htext, ?_⟩
  have hstart : (Location.origin.afterAll passed).start = passed.length := by
    rw [Location.start_afterAll]
    exact Nat.zero_add _
  rw [hstart, htext, List.drop_left]

end Cursor

theorem Token.StandsAt.trueIn {source : String} {here : Cursor} {token : Token} (h : token.StandsAt here)
    (hreaches : (Cursor.ofSource source).Reaches here) : token.TrueIn source.toList := by
  obtain ⟨hlocation, hrest⟩ := hreaches.trueIn
  rw [← h.location] at hlocation hrest
  refine ⟨hlocation, ?_, fun hlast => ?_⟩
  · rw [hrest]
    exact h.begins
  · rcases h.lexeme with hlexeme | ⟨-, hempty⟩
    · exact absurd hlast hlexeme.ne_eof
    · -- nothing is left of the text, so its end is reached
      rw [hempty, List.drop_eq_nil_iff] at hrest
      exact Nat.le_antisymm hlocation.start_le hrest

theorem LexError.StandsAt.trueIn {source : String} {here : Cursor} {failure : LexError}
    (h : failure.StandsAt here) (hreaches : (Cursor.ofSource source).Reaches here) :
    failure.TrueIn source.toList := by
  obtain ⟨hlocation, hrest⟩ := hreaches.trueIn
  rw [← h.location] at hlocation hrest
  obtain ⟨following, hfollowing⟩ := h.begins
  refine ⟨hlocation, ?_⟩
  rw [hrest, hfollowing]
  exact ⟨following, rfl⟩

/-- An answer of a stream is one of its tokens, or the failure that ends them. -/
theorem TokenStream.nth_cases (stream : TokenStream) (n : Nat) :
    (∃ token ∈ stream.all, stream.nth n = .ok token) ∨
      ∃ failure, stream.ending = .error failure ∧ stream.nth n = .error failure := by
  obtain ⟨tokens, ending⟩ := stream
  cases htoken : tokens[n]? with
  | some token =>
      refine .inl ⟨token, ?_, by rw [nth, htoken]⟩
      rw [← List.append_nil tokens, all_append]
      exact List.mem_append_left _ (List.mem_of_getElem? htoken)
  | none =>
      cases ending with
      | ok last => exact .inl ⟨last, List.mem_append_right _ (List.mem_singleton.mpr rfl), by rw [nth, htoken]⟩
      | error failure => exact .inr ⟨failure, rfl, by rw [nth, htoken]⟩

/-- **Every answer in the row of a source is true.** -/
theorem Cursor.row_trueReport (source : String) (n : Nat) :
    TrueReport source.toList ((ofSource source).row n) := by
  rw [row_eq_nth]
  rcases (TokenStream.ofCursor (ofSource source)).nth_cases n with ⟨token, hmem, hnth⟩ | ⟨failure, hending, hnth⟩
  · obtain ⟨here, hreaches, hstands⟩ := TokenStream.reaches_token hmem
    rw [hnth]
    exact hstands.trueIn hreaches
  · obtain ⟨here, hreaches, hstands⟩ := TokenStream.reaches_failure hending
    rw [hnth]
    exact hstands.trueIn hreaches

/-! ## Order -/

/-- A token ends where another one begins, or before. -/
def Token.Precedes (token next : Token) : Prop :=
  token.location.start + token.lexeme.length ≤ next.location.start

namespace Cursor

theorem Reaches.start_le {cursor here : Cursor} (h : cursor.Reaches here) :
    cursor.location.start ≤ here.location.start := by
  obtain ⟨passed, -, hlocation⟩ := h
  rw [hlocation, Location.start_afterAll]
  omega

/-- A read leaves the cursor where the token ends. -/
theorem start_of_read {cursor behind : Cursor} {token : Token} (h : cursor.read = .ok token behind) :
    token.location.start + token.lexeme.length = behind.location.start := by
  rcases readHere_cases cursor.skipBlanks with ⟨-, hend⟩ | ⟨_, _, hfound, hinner, -⟩ | ⟨_, hfailed⟩
  · cases h.symm.trans hend
    rfl
  · cases h.symm.trans hfound
    have htakes := takes_of_readHere hfound hinner
    rw [htakes.behind_location, Location.start_afterAll, htakes.location, String.length_toList]
  · cases h.symm.trans hfailed

/-- All tokens in the row of a cursor stand behind it. -/
theorem start_le_row {cursor : Cursor} {n : Nat} {token : Token} (h : cursor.row n = .ok token) :
    cursor.location.start ≤ token.location.start := by
  rw [row_eq_nth] at h
  rcases (TokenStream.ofCursor cursor).nth_cases n with ⟨found, hmem, hnth⟩ | ⟨failure, -, hnth⟩
  · cases hnth.symm.trans h
    obtain ⟨here, hreaches, hstands⟩ := TokenStream.reaches_token hmem
    rw [hstands.location]
    exact hreaches.start_le
  · cases hnth.symm.trans h

/-- **Tokens do not overlap.** Of two tokens in the row of a cursor, the first precedes the second. -/
theorem row_precedes {cursor : Cursor} {n more : Nat} {token next : Token} (htoken : cursor.row n = .ok token)
    (hnext : cursor.row (n + 1 + more) = .ok next) : token.Precedes next := by
  induction n generalizing cursor with
  | zero =>
      cases hread : cursor.read with
      | error failure here =>
          rw [row_of_error hread] at htoken
          cases htoken
      | ok first behind =>
          -- the first token has been read, and the second one stands behind what was read
          rw [row_of_read hread] at htoken hnext
          cases htoken
          rw [Nat.zero_add, Nat.add_comm, Row.cons_succ] at hnext
          rw [Token.Precedes, start_of_read hread]
          exact start_le_row hnext
  | succ n ih =>
      cases hread : cursor.read with
      | error failure here =>
          rw [row_of_error hread] at htoken
          cases htoken
      | ok first behind =>
          rw [row_of_read hread] at htoken hnext
          rw [Row.cons_succ] at htoken
          rw [show n + 1 + 1 + more = (n + 1 + more) + 1 by omega, Row.cons_succ] at hnext
          exact ih htoken hnext

/-- **Tokens in front of the row of a cursor** do not overlap, each with all that follow it. -/
theorem pairwise_precedes {cursor : Cursor} {taken : List Token} {left : Row}
    (h : cursor.row = taken.foldr Row.cons left) : taken.Pairwise Token.Precedes := by
  rw [List.pairwise_iff_getElem]
  intro i j hi hj hlt
  obtain ⟨more, rfl⟩ := Nat.exists_eq_add_of_le (Nat.succ_le_of_lt hlt)
  have htoken : cursor.row i = .ok taken[i] := by
    rw [h]
    exact Row.foldr_cons_lt hi
  have hnext : cursor.row (i + 1 + more) = .ok taken[i + 1 + more] := by
    rw [h]
    exact Row.foldr_cons_lt hj
  exact row_precedes htoken hnext

end Cursor

end ModuleLang
