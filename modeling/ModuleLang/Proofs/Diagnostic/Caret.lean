import ModuleLang.Diagnostic.Error
import ModuleLang.Proofs.Parser.Verdict
import ModuleLang.Proofs.Token.Position

/-!
# `Proofs.Diagnostic.Caret` — what a diagnostic points at

A diagnostic is made from a location and the text alone. For an error that scanning or parsing the text ends with,
the location is that of a character of the text or of its end, and the caret stands below it.

## Contents
- **Snippets** (`splitLines_snippet`, `getElem?_numbered`): a snippet has the lines it was made of, and behind its
  number a line goes on at the place where the gutter ends.
- **`Rejected`**: the errors that scanning or parsing a source ends with, and the place where each of them stands
  (`Rejected.standsAt`).
- **One line for the message** (`newline_not_mem_caption`): neither lexemes nor bad characters have line feeds.
- **`render_rejected`**: the lines of a diagnostic, and what stands above the caret.
-/

namespace ModuleLang

open Unicode (isWhiteSpace)

/-! ## Snippets -/

/-- A line that the text has is shown behind its number. -/
theorem numbered_of_lt {lines : List String} {n : Nat} (hn : n < lines.length) :
    numbered lines n = toString n ++ "  | " ++ lines[n] := by
  rw [numbered, List.getElem?_eq_getElem hn, Option.getD_some]

theorem newline_not_mem_toString (n : Nat) : '\n' ∉ (toString n).toList := by
  intro hmem
  have hdigit := Nat.isDigit_of_mem_toDigits (by decide) (by decide) (Nat.toList_repr ▸ hmem)
  exact absurd hdigit (by decide)

/-- A line of a text has no line feed, and its number adds none. -/
theorem newline_not_mem_numbered (source : String) (n : Nat) :
    '\n' ∉ (numbered (Text.splitLines source) n).toList := by
  have hline : '\n' ∉ ((Text.splitLines source)[n]?.getD "").toList := by
    cases hfound : (Text.splitLines source)[n]? with
    | none => exact List.not_mem_nil
    | some line => exact Text.newline_not_mem_splitLines source line (List.mem_of_getElem? hfound)
  simp only [numbered, String.toList_append, List.mem_append, not_or]
  exact ⟨⟨newline_not_mem_toString n, by decide⟩, hline⟩

/-- **A snippet has the lines it was made of**, if its message has one line. -/
theorem splitLines_snippet {message : String} (hmessage : '\n' ∉ message.toList) (source : String)
    (location : Location) :
    Text.splitLines (snippet source location message) = snippetLines source location message := by
  refine Text.splitLines_intercalate (by simp [snippetLines]) fun line hmem => ?_
  have hfence : '\n' ∉ fence.toList := by decide
  simp only [snippetLines, List.mem_append, List.mem_cons, List.not_mem_nil, or_false] at hmem
  rcases hmem with (rfl | hmem) | rfl | rfl | rfl
  · exact hfence
  · split at hmem
    case isTrue => cases hmem
    case isFalse =>
      cases List.mem_singleton.mp hmem
      exact newline_not_mem_numbered source _
  · exact newline_not_mem_numbered source _
  · simp only [String.toList_append, Text.toList_spaces, List.mem_append, not_or]
    exact ⟨⟨fun hmem => absurd (List.eq_of_mem_replicate hmem) (by decide), by decide⟩, hmessage⟩
  · exact hfence

/-- The lines of a snippet for a line that the text has. -/
theorem snippetLines_of_lt {source : String} {location : Location}
    (hn : location.line < (Text.splitLines source).length) (message : String) :
    snippetLines source location message =
      ["```"] ++ (if location.line = 0 then []
        else [toString (location.line - 1) ++ "  | " ++ (Text.splitLines source)[location.line - 1]]) ++
      [toString location.line ++ "  | " ++ (Text.splitLines source)[location.line],
        Text.spaces (location.column + (toString location.line).length + 4) ++ "^ " ++ message, "```"] := by
  rw [snippetLines, ← numbered_of_lt hn, ← numbered_of_lt (Nat.lt_of_le_of_lt (Nat.sub_le _ 1) hn)]
  rfl

/-- **Behind the gutter** a numbered line goes on as the line itself does. -/
theorem getElem?_numbered (n column : Nat) (line : String) :
    (toString n ++ "  | " ++ line).toList[column + (toString n).length + 4]? = line.toList[column]? := by
  have hgutter : (toString n ++ "  | ").toList.length = (toString n).length + 4 := by
    rw [String.length_toList, String.length_append]
    rfl
  rw [String.toList_append, List.getElem?_append_right (by omega), hgutter]
  congr 1
  omega

theorem length_numbered (n : Nat) (line : String) :
    (toString n ++ "  | " ++ line).length = line.length + (toString n).length + 4 := by
  have hbar : "  | ".length = 4 := rfl
  rw [String.length_append, String.length_append, hbar]
  omega

/-! ## Errors and their places -/

/-- The errors that scanning or parsing a source ends with. -/
inductive Rejected (source : String) : ParseError → Prop where
  /-- Scanning fails at a bad character. -/
  | scanning {failure : LexError} : scan source = .error failure → Rejected source (.lexical failure)
  /-- Parsing fails. -/
  | parsing {error : ParseError} : parse source = .error error → Rejected source error

/-- **An error stands at a cursor** if the bad character does, or the unexpected token. -/
inductive ParseError.StandsAt (here : Cursor) : ParseError → Prop where
  | lexical {cause : LexError} : cause.StandsAt here → StandsAt here (.lexical cause)
  | unexpected {found : Token} (expected : List TokenKind) : found.StandsAt here →
      StandsAt here (.unexpected expected found)

/-- An error stands at a place in the text that was rejected. -/
theorem Rejected.standsAt {source : String} {error : ParseError} (h : Rejected source error) :
    ∃ here, (Cursor.ofSource source).Reaches here ∧ error.StandsAt here := by
  have hending {failure : LexError} (hfailure : (TokenStream.ofSource source).ending = .error failure) :
      ∃ here, (Cursor.ofSource source).Reaches here ∧ (ParseError.lexical failure).StandsAt here := by
    obtain ⟨here, hreaches, hstands⟩ := TokenStream.reaches_failure hfailure
    exact ⟨here, hreaches, .lexical hstands⟩
  cases h with
  | scanning hscan => exact hending (scan_eq_error_iff.mp hscan)
  | parsing hparse =>
      rcases parse_verdict hparse with ⟨before, found, expected, hfault, rfl, -⟩ | ⟨failure, rfl, hfailure, -⟩
      · have hmem : found ∈ (TokenStream.ofSource source).all := hfault.begins.subset (by simp)
        obtain ⟨here, hreaches, hstands⟩ := TokenStream.reaches_token hmem
        exact ⟨here, hreaches, .unexpected expected hstands⟩
      · exact hending hfailure

theorem ParseError.StandsAt.location_eq {error : ParseError} {here : Cursor} (h : error.StandsAt here) :
    error.location = here.location := by
  cases h with
  | lexical hcause => exact hcause.location
  | unexpected expected hfound => exact hfound.location

/-! ## One line for the message -/

theorem Token.StandsAt.newline_not_mem_lexeme {token : Token} {here : Cursor} (h : token.StandsAt here) :
    '\n' ∉ token.lexeme.toList := by
  rcases h.lexeme with hlexeme | ⟨-, hend⟩
  · exact hlexeme.newline_not_mem
  · have hempty := h.begins
    rw [hend, List.prefix_nil] at hempty
    rw [hempty]
    exact List.not_mem_nil

theorem newline_not_mem_expectation (expected : List TokenKind) : '\n' ∉ (expectation expected).toList := by
  unfold expectation
  split
  case h_1 kind => exact kind.newline_not_mem_name
  case h_2 =>
    rw [String.toList_append, List.mem_append, not_or]
    have hnames : ∀ text ∈ expected.map TokenKind.name, '\n' ∉ text.toList :=
      List.forall_mem_map.mpr fun kind _ => kind.newline_not_mem_name
    exact ⟨by decide, Text.not_mem_intercalate (by decide) hnames⟩

/-- **A message has one line.** -/
theorem ParseError.StandsAt.newline_not_mem_caption {error : ParseError} {here : Cursor}
    (h : error.StandsAt here) : '\n' ∉ error.caption.toList := by
  cases h with
  | @lexical cause hcause =>
      have hcharacter : '\n' ≠ cause.character := (ne_newline_of_not_blank hcause.not_blank).symm
      have hspelling : cause.character.toString.toList = [cause.character] :=
        String.toList_singleton cause.character
      show '\n' ∉ ("Scanning failed starting at: " ++ cause.character.toString).toList
      rw [String.toList_append, hspelling, List.mem_append, not_or]
      exact ⟨by decide, fun hmem => hcharacter (List.mem_singleton.mp hmem)⟩
  | @unexpected found expected hfound =>
      have hname : '\n' ∉ found.kind.name.toList := found.kind.newline_not_mem_name
      simp only [caption, unexpectedCaption, String.toList_append, List.mem_append, not_or]
      refine ⟨⟨⟨⟨⟨?_, newline_not_mem_expectation expected⟩, ?_⟩, hfound.newline_not_mem_lexeme⟩, ?_⟩, hname⟩
      all_goals decide

/-! ## Above the caret -/

/-- The character that an error is about: the bad one, or the first one of the unexpected token. An end token has
    none. -/
def ParseError.character? : ParseError → Option Char
  | lexical cause => some cause.character
  | unexpected _ found => found.lexeme.toList.head?

/-- The first character of a token is the one that stands in front of the cursor, and only an end token has
    none. -/
theorem Token.StandsAt.head? {token : Token} {here : Cursor} (h : token.StandsAt here) :
    here.rest.head? = token.lexeme.toList.head? ∧ (token.lexeme.toList = [] ↔ token.kind = .eof) := by
  obtain ⟨rest, hrest⟩ := h.begins
  rcases h.lexeme with hlexeme | ⟨hkind, hend⟩
  · obtain ⟨c, more, htext⟩ := List.exists_cons_of_ne_nil hlexeme.ne_nil
    rw [← hrest, htext]
    exact ⟨rfl, iff_of_false (List.cons_ne_nil c more) hlexeme.ne_eof⟩
  · rw [hend] at hrest ⊢
    rw [(List.append_eq_nil_iff.mp hrest).1]
    exact ⟨rfl, iff_of_true rfl hkind⟩

namespace ParseError.StandsAt

variable {error : ParseError} {here : Cursor}

/-- The character that an error is about stands in front of the cursor. -/
theorem character?_eq (h : error.StandsAt here) : error.character? = here.rest.head? := by
  cases h with
  | lexical hcause =>
      obtain ⟨rest, hrest⟩ := hcause.begins
      rw [hrest]
      rfl
  | unexpected expected hfound => exact hfound.head?.1.symm

/-- The character that an error is about is no line feed. -/
theorem character?_ne_newline (h : error.StandsAt here) : ∀ c ∈ error.character?, c ≠ '\n' := by
  cases h with
  | lexical hcause =>
      rintro c ⟨⟩
      exact ne_newline_of_not_blank hcause.not_blank
  | unexpected expected hfound =>
      rintro c hc rfl
      exact hfound.newline_not_mem_lexeme (List.mem_of_head? hc)

/-- Only an error about an end token is about no character. -/
theorem character?_eq_none (h : error.StandsAt here) :
    error.character? = none ↔ ∃ expected found, error = .unexpected expected found ∧ found.kind = .eof := by
  cases h with
  | lexical hcause => exact ⟨nofun, nofun⟩
  | @unexpected found expected hfound =>
      rw [character?, List.head?_eq_none_iff, hfound.head?.2]
      constructor
      · intro hkind
        exact ⟨expected, found, rfl, hkind⟩
      · rintro ⟨_, _, herror, hkind⟩
        cases herror
        exact hkind

/-- **Above the caret.** The line of an error is a line of the text. It has the character that the error is about
    at the error's column, and it ends at that column if there is no such character. -/
theorem line {source : String} (h : error.StandsAt here) (hreaches : (Cursor.ofSource source).Reaches here) :
    ∃ line, (Text.splitLines source)[error.location.line]? = some line ∧
      line.toList[error.location.column]? = error.character? ∧
      (error.location.column = line.length ↔ error.character? = none) := by
  obtain ⟨passed, hsource, hlocation⟩ := hreaches
  have hplace : error.location = Location.origin.afterAll passed := h.location_eq.trans hlocation
  rw [hplace]
  have hcharacter := h.character?_eq
  cases hrest : here.rest with
  | nil =>
      rw [hrest, List.append_nil] at hsource
      obtain ⟨line, hline, hlength⟩ := length_splitLines_last source
      rw [show source.toList = passed from hsource] at hline hlength
      rw [hrest] at hcharacter
      refine ⟨line, hline, ?_, iff_of_true hlength.symm hcharacter⟩
      rw [hcharacter, ← hlength, ← String.length_toList]
      exact List.getElem?_eq_none (Nat.le_refl _)
  | cons c rest =>
      rw [hrest] at hsource hcharacter
      obtain ⟨line, hline, hcolumn⟩ := getElem?_splitLines hsource (h.character?_ne_newline c hcharacter)
      refine ⟨line, hline, hcolumn.trans hcharacter.symm, iff_of_false ?_ ?_⟩
      · -- the line has a character at the column, so it does not end there
        obtain ⟨hlt, -⟩ := List.getElem?_eq_some_iff.mp hcolumn
        rw [String.length_toList] at hlt
        exact Nat.ne_of_lt hlt
      · rw [hcharacter]
        exact nofun

end ParseError.StandsAt

/-! ## Diagnostics -/

/-- **Diagnostics.** Whatever error scanning or parsing a source ends with, its line is a line of the source. The
    diagnostic consists of a fence, the line before with its number if there is one, the line itself with its
    number, a caret with the message, which has one line, and a fence. Above the caret stands the bad character,
    or the first character of the unexpected token. The caret stands behind the end of the line if and only if
    the end token is unexpected. -/
theorem render_rejected {source : String} {error : ParseError} (h : Rejected source error) :
    let lines := Text.splitLines source
    let n := error.location.line
    let caret := error.location.column + (toString n).length + 4
    ∃ hn : n < lines.length,
      let before := if n = 0 then [] else [toString (n - 1) ++ "  | " ++ lines[n - 1]]
      let shown := toString n ++ "  | " ++ lines[n]
      Text.splitLines (error.render source) =
          ["```"] ++ before ++ [shown, Text.spaces caret ++ "^ " ++ error.caption, "```"] ∧
        '\n' ∉ error.caption.toList ∧
        (∀ cause, error = .lexical cause → shown.toList[caret]? = some cause.character) ∧
        (∀ expected found, error = .unexpected expected found → found.kind ≠ .eof →
          ∃ c, found.lexeme.toList.head? = some c ∧ shown.toList[caret]? = some c) ∧
        (caret = shown.length ↔ ∃ expected found, error = .unexpected expected found ∧ found.kind = .eof) := by
  obtain ⟨here, hreaches, hstands⟩ := h.standsAt
  obtain ⟨line, hline, hcolumn, hend⟩ := hstands.line hreaches
  intro lines n caret
  obtain ⟨hn, rfl⟩ := List.getElem?_eq_some_iff.mp hline
  have hmessage := hstands.newline_not_mem_caption
  -- the gutter moves the character at the error's column to the caret
  have habove : (toString n ++ "  | " ++ lines[n]).toList[caret]? = error.character? :=
    (getElem?_numbered n _ _).trans hcolumn
  refine ⟨hn, ?_, hmessage, ?_, ?_, ?_⟩
  · exact (splitLines_snippet hmessage source error.location).trans (snippetLines_of_lt hn error.caption)
  · rintro cause rfl
    exact habove
  · rintro expected found rfl hinner
    cases hfirst : found.lexeme.toList.head? with
    | some c => exact ⟨c, rfl, habove.trans hfirst⟩
    | none =>
        obtain ⟨_, _, herror, hkind⟩ := hstands.character?_eq_none.mp hfirst
        cases herror
        exact absurd hkind hinner
  · rw [← hstands.character?_eq_none, ← hend, length_numbered, Nat.add_right_cancel_iff,
      Nat.add_right_cancel_iff]

/-- An assignment without a value, on a second line. -/
theorem render_rejected_missing_value :
    let source := "module m\x7b\n x=;"
    let error := ParseError.unexpected [.number, .identifier] ⟨.semicolon, ";", ⟨1, 3, 13⟩⟩
    Rejected source error ∧
      Text.splitLines (error.render source) =
        ["```", "0  | module m\x7b", "1  |  x=;",
          "        ^ Expected one of number, id, but got \";\" of kind semicolon", "```"] ∧
      "1  |  x=;".toList[8]? = some ';' := by
  intro source error
  have hrejected : Rejected source error := .parsing (by decide +kernel)
  obtain ⟨hn, hlines, -, -, habove, -⟩ := render_rejected hrejected
  have hbefore : ∀ h : 0 < (Text.splitLines source).length, (Text.splitLines source)[0] = "module m\x7b" := by
    decide +kernel
  have hline : ∀ h : 1 < (Text.splitLines source).length, (Text.splitLines source)[1] = " x=;" := by
    decide +kernel
  refine ⟨hrejected, ?_, ?_⟩
  · rw [hlines, show (Text.splitLines source)[error.location.line - 1] = _ from hbefore _,
      show (Text.splitLines source)[error.location.line] = _ from hline _]
    decide +kernel
  · obtain ⟨c, hc, hshown⟩ := habove _ _ rfl nofun
    obtain rfl : c = ';' := (Option.some.inj hc).symm
    rwa [show (Text.splitLines source)[error.location.line] = _ from hline _,
      show toString error.location.line ++ "  | " ++ " x=;" = "1  |  x=;" by decide +kernel,
      show error.location.column + (toString error.location.line).length + 4 = 8 by decide +kernel] at hshown

end ModuleLang
