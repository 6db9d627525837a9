import ModuleLang.Proofs.Token.Row
import ModuleLang.Proofs.Token.Written
import ModuleLang.Text.Lines

/-!
# `Proofs.Token.Position` — positions in a source text

The reader counts lines and columns while it takes characters. What it counts is where the characters stand in
the lines of the text, and every token and every failure is reported where its characters stand.

## Contents
- **Counting and cutting** (`Location.splitOn_afterAll`): the line and the column behind a run of characters are
  those at which the run ends when the text is cut into lines. So a character of a text is found by its
  location (`getElem?_splitLines`), and so is the end of the text (`length_splitLines_last`).
- **`Cursor.Reaches`**: one cursor stands behind another in the same text.
- **Tokens and failures** (`reaches_token`, `reaches_failure`): each is reported at a cursor that stands in front
  of its characters.
-/

namespace ModuleLang

open Unicode (isWhiteSpace)

/-! ## Counting and cutting -/

/-- **Counting keeps up with cutting.** If a location counts the lines in front of it and the characters that
    stand in front of it on its own line, then so does the location behind a run of characters, whatever
    follows the run. -/
theorem Location.splitOn_afterAll (run : List Char) {location : Location} {lines : List (List Char)}
    {line : List Char} (hlines : lines.length = location.line) (hline : line.length = location.column) :
    ∃ lines' line', lines'.length = (location.afterAll run).line ∧
      line'.length = (location.afterAll run).column ∧
      ∀ rest, lines ++ ((run ++ rest).splitOn '\n').modifyHead (line ++ ·) =
        lines' ++ (rest.splitOn '\n').modifyHead (line' ++ ·) := by
  induction run generalizing location lines line with
  | nil => exact ⟨lines, line, hlines, hline, fun _ => rfl⟩
  | cons c run ih =>
      by_cases hc : c = '\n'
      · -- the line is complete, and the next one is still empty
        obtain ⟨lines', line', hlines', hline', hsplit⟩ :=
          @ih (location.after c) (lines ++ [line]) [] (by simp [after, hc, hlines]) (by simp [after, hc])
        refine ⟨lines', line', hlines', hline', fun rest => ?_⟩
        have hhead : ((run ++ rest).splitOn '\n').modifyHead ([] ++ ·) = (run ++ rest).splitOn '\n' :=
          congrFun List.modifyHead_id _
        rw [← hsplit, hhead, hc, List.cons_append, Text.splitOn_cons_newline]
        simp
      · -- the line goes on by one character
        obtain ⟨lines', line', hlines', hline', hsplit⟩ :=
          @ih (location.after c) lines (line ++ [c]) (by simp [after, hc, hlines]) (by simp [after, hc, hline])
        refine ⟨lines', line', hlines', hline', fun rest => ?_⟩
        rw [← hsplit, List.cons_append, Text.splitOn_cons_of_ne hc, List.modifyHead_modifyHead]
        simp [Function.comp_def]

/-- The lines of a text, cut behind a run of characters: complete lines, and a line that goes on. The location
    behind the run counts both. -/
theorem Location.splitOn_origin (run : List Char) :
    ∃ lines line, lines.length = (origin.afterAll run).line ∧ line.length = (origin.afterAll run).column ∧
      ∀ rest, (run ++ rest).splitOn '\n' = lines ++ (rest.splitOn '\n').modifyHead (line ++ ·) := by
  obtain ⟨lines, line, hlines, hline, hsplit⟩ := @splitOn_afterAll run origin [] [] rfl rfl
  refine ⟨lines, line, hlines, hline, fun rest => ?_⟩
  rw [← hsplit]
  exact (congrFun List.modifyHead_id _).symm

/-- **A character is found by its location** in the lines of the text. -/
theorem getElem?_splitLines {source : String} {before behind : List Char} {c : Char}
    (hsource : source.toList = before ++ c :: behind) (hc : c ≠ '\n') :
    ∃ line, (Text.splitLines source)[(Location.origin.afterAll before).line]? = some line ∧
      line.toList[(Location.origin.afterAll before).column]? = some c := by
  obtain ⟨lines, line, hlines, hline, hsplit⟩ := Location.splitOn_origin before
  obtain ⟨piece, pieces, hpieces⟩ := List.exists_cons_of_ne_nil (List.splitOn_ne_nil '\n' behind)
  refine ⟨.ofList (line ++ c :: piece), ?_, ?_⟩
  · rw [Text.splitLines, hsource, hsplit, Text.splitOn_cons_of_ne hc, hpieces, ← hlines]
    simp
  · rw [String.toList_ofList, ← hline]
    simp

/-- **The end of a text is found by its location**: it is the end of the last line. -/
theorem length_splitLines_last (source : String) :
    ∃ line, (Text.splitLines source)[(Location.origin.afterAll source.toList).line]? = some line ∧
      line.length = (Location.origin.afterAll source.toList).column := by
  obtain ⟨lines, line, hlines, hline, hsplit⟩ := Location.splitOn_origin source.toList
  have hpieces := hsplit []
  rw [List.append_nil] at hpieces
  refine ⟨.ofList line, ?_, ?_⟩
  · rw [Text.splitLines, hpieces, ← hlines]
    simp
  · rw [← hline, ← String.length_toList, String.toList_ofList]

/-! ## Places in a text -/

namespace Cursor

/-- **One cursor stands behind another** in the same text: the characters between them have been passed, and
    counted. -/
def Reaches (cursor here : Cursor) : Prop :=
  ∃ passed, cursor.rest = passed ++ here.rest ∧ here.location = cursor.location.afterAll passed

theorem Reaches.refl (cursor : Cursor) : cursor.Reaches cursor :=
  ⟨[], rfl, rfl⟩

theorem Reaches.trans {cursor between here : Cursor} (h : cursor.Reaches between)
    (h' : between.Reaches here) : cursor.Reaches here := by
  obtain ⟨passed, hrest, hlocation⟩ := h
  obtain ⟨passed', hrest', hlocation'⟩ := h'
  refine ⟨passed ++ passed', ?_, ?_⟩
  · rw [hrest, hrest', List.append_assoc]
  · rw [hlocation', hlocation, Location.afterAll_append]

/-- Skipping blanks stays in the text. -/
theorem reaches_skipBlanks (cursor : Cursor) : cursor.Reaches cursor.skipBlanks := by
  obtain ⟨gap, -, hrest, hlocation⟩ := cursor.skipBlanks_eq
  exact ⟨gap, hrest, hlocation⟩

/-- Taking a token stays in the text. -/
theorem Takes.reaches {here behind : Cursor} {token : Token} (h : here.Takes token behind) :
    here.Reaches behind :=
  ⟨token.lexeme.toList, h.text, h.behind_location⟩

/-- Reading fails on a character that is in none of the classes of which lexemes are made. -/
theorem readHere_error_class {here left : Cursor} {failure : LexError}
    (h : readHere here = .error failure left) :
    ∃ c rest, here.rest = c :: rest ∧ failure = ⟨c, here.location⟩ ∧ left = here ∧
      TokenKind.punctuation? c = none ∧ isDigit c = false ∧ isWordCharacter c = false := by
  unfold readHere at h
  split at h
  case h_1 => cases h
  case h_2 c rest hrest =>
    split at h
    case h_1 => cases h
    case h_2 hmark =>
      split at h
      case isTrue => cases h
      case isFalse hdigit =>
        split at h
        case isTrue => cases h
        case isFalse hletter =>
          cases h
          exact ⟨c, rest, hrest, rfl, rfl, hmark, Bool.eq_false_iff.mpr hdigit, Bool.eq_false_iff.mpr hletter⟩

/-- Where reading fails, the character that begins no token stands in front of the cursor. -/
theorem readHere_error {here left : Cursor} {failure : LexError} (h : readHere here = .error failure left) :
    left = here ∧ failure.location = here.location ∧ ∃ rest, here.rest = failure.character :: rest := by
  obtain ⟨c, rest, hrest, rfl, rfl, -⟩ := readHere_error_class h
  exact ⟨rfl, rfl, rest, hrest⟩

end Cursor

/-! ## Tokens and failures -/

/-- **A token stands at a cursor**, which has its location: its lexeme stands in front of the cursor, and in front
    of an end token there is nothing. -/
structure Token.StandsAt (token : Token) (here : Cursor) : Prop where
  /-- The token is reported where the cursor stands. -/
  location : token.location = here.location
  /-- The text in front of the cursor begins with the lexeme. -/
  begins : token.lexeme.toList <+: here.rest
  /-- The lexeme is a spelling of the token's kind, or there is nothing more in the text. -/
  lexeme : Lexeme token.kind token.lexeme.toList ∨ (token.kind = .eof ∧ here.rest = [])

/-- **A failure stands at a cursor**, which has its location: its character, which is not blank, is the next one. -/
structure LexError.StandsAt (failure : LexError) (here : Cursor) : Prop where
  /-- The failure is reported where the cursor stands. -/
  location : failure.location = here.location
  /-- The text in front of the cursor begins with the character. -/
  begins : ∃ rest, here.rest = failure.character :: rest
  /-- The character is not one of those that are skipped. -/
  not_blank : isWhiteSpace failure.character = false

namespace Cursor

/-- What is read stands behind the cursor, and the cursor that is left behind what was read. -/
theorem read_standsAt {cursor behind : Cursor} {token : Token} (h : cursor.read = .ok token behind) :
    ∃ here, cursor.Reaches here ∧ token.StandsAt here ∧ here.Reaches behind := by
  refine ⟨cursor.skipBlanks, cursor.reaches_skipBlanks, ?_⟩
  rcases readHere_cases cursor.skipBlanks with ⟨hrest, hend⟩ | ⟨_, _, hfound, hinner, _⟩ | ⟨_, hfailed⟩
  · cases h.symm.trans hend
    exact ⟨⟨rfl, List.nil_prefix, .inr ⟨rfl, hrest⟩⟩, .refl _⟩
  · cases h.symm.trans hfound
    have htakes := takes_of_readHere hfound hinner
    exact ⟨⟨htakes.location, ⟨_, htakes.text.symm⟩, .inl htakes.lexeme⟩, htakes.reaches⟩
  · cases h.symm.trans hfailed

/-- A failure to read stands behind the cursor. -/
theorem read_error_standsAt {cursor left : Cursor} {failure : LexError}
    (h : cursor.read = .error failure left) : ∃ here, cursor.Reaches here ∧ failure.StandsAt here := by
  obtain ⟨rfl, hlocation, rest, hrest⟩ := readHere_error h
  refine ⟨cursor.skipBlanks, cursor.reaches_skipBlanks, hlocation, ⟨rest, hrest⟩, ?_⟩
  -- the blanks in front of the character have been skipped, all of them
  exact (take_eq cursor).2.2 failure.character (by rw [show (cursor.take isWhiteSpace).2.rest = _ from hrest]; rfl)

end Cursor

namespace TokenStream

/-- **Every token stands where it is reported.** -/
theorem reaches_token {cursor : Cursor} {token : Token} (h : token ∈ (ofCursor cursor).all) :
    ∃ here, cursor.Reaches here ∧ token.StandsAt here := by
  fun_induction ofCursor cursor with
  | case1 cursor failure here hread => cases h
  | case2 cursor last behind hread hlast =>
      cases List.mem_singleton.mp h
      obtain ⟨here, hreaches, hstands, -⟩ := Cursor.read_standsAt hread
      exact ⟨here, hreaches, hstands⟩
  | case3 cursor first behind hread hinner following ih =>
      obtain ⟨between, hreaches, hstands, hbehind⟩ := Cursor.read_standsAt hread
      rw [show first :: following.tokens = [first] ++ following.tokens from rfl, all_append] at h
      rcases List.mem_append.mp h with h | h
      · cases List.mem_singleton.mp h
        exact ⟨between, hreaches, hstands⟩
      · obtain ⟨here, hhere, hstands⟩ := ih h
        exact ⟨here, (hreaches.trans hbehind).trans hhere, hstands⟩

/-- **A failure stands where it is reported.** -/
theorem reaches_failure {cursor : Cursor} {failure : LexError}
    (h : (ofCursor cursor).ending = .error failure) : ∃ here, cursor.Reaches here ∧ failure.StandsAt here := by
  fun_induction ofCursor cursor with
  | case1 cursor failure here hread =>
      cases h
      exact Cursor.read_error_standsAt hread
  | case2 cursor last behind hread hlast => cases h
  | case3 cursor first behind hread hinner following ih =>
      obtain ⟨between, hreaches, -, hbehind⟩ := Cursor.read_standsAt hread
      obtain ⟨here, hhere, hstands⟩ := ih h
      exact ⟨here, (hreaches.trans hbehind).trans hhere, hstands⟩

end TokenStream

end ModuleLang
