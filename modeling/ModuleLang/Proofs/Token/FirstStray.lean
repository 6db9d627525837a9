import ModuleLang.Language.Lexical
import ModuleLang.Proofs.Token.Truth

/-!
# `Proofs.Token.FirstStray` — the one failure of a text

Blanks are skipped and lexemes are taken, so the only characters at which reading can stop for good are those that are
neither. It stops at the first of them, and whatever is read in a text fails there or nowhere.

## Contents
- **Clean runs** (`Clean`): runs of blanks and lexemes hold no stray character.
- **`LexError.AtFirstStray`**: a failure about the first stray character of a text. There is one at most
  (`AtFirstStray.unique`).
- **Streams** (`failure_stray`, `clean_of_end`): a stream ends with a failure at the first stray character of its
  text, or there is none. Its tokens end in front of that character (`ends_before_failure`).
- **Scanning** (`scan_eq_error_iff_stray`, `exists_scan_error_iff`): which texts cannot be scanned, and why.
-/

namespace ModuleLang

open Unicode (isWhiteSpace)

/-! ## Clean runs -/

/-- A run of characters without a stray one. -/
def Clean (run : List Char) : Prop :=
  ∀ c ∈ run, ¬ Stray c

theorem Clean.append {first second : List Char} (hfirst : Clean first) (hsecond : Clean second) :
    Clean (first ++ second) :=
  List.forall_mem_append.mpr ⟨hfirst, hsecond⟩

theorem Blanks.clean {gap : List Char} (h : Blanks gap) : Clean gap := by
  intro c hmem hstray
  have hblank := h c hmem
  rw [hstray.not_blank] at hblank
  cases hblank

theorem Lexeme.clean {kind : TokenKind} {text : List Char} (h : Lexeme kind text) : Clean text := by
  intro c hmem hstray
  rcases lexeme_iff.mp h with ⟨mark, rfl, hmark⟩ | ⟨-, -, hdigits⟩ | ⟨-, hletters, -⟩
  · cases List.mem_singleton.mp hmem
    cases hstray.not_mark.symm.trans hmark
  · cases hstray.not_digit.symm.trans (hdigits c hmem)
  · cases hstray.not_letter.symm.trans (hletters c hmem)

/-- A text that is written in words is clean. -/
theorem Written.clean {words : List Word} {text : List Char} (h : Written words text) : Clean text := by
  induction h with
  | nil hgap => exact hgap.clean
  | cons hgap hlexeme _ _ ih => exact hgap.clean.append (hlexeme.clean.append ih)

/-! ## The first stray character -/

/-- **A failure is about the first stray character** of a text: it is reported where this character stands, and
    there is none in front of it. -/
structure LexError.AtFirstStray (text : List Char) (failure : LexError) : Prop where
  /-- The location can be counted in the text. -/
  location : failure.location.TrueIn text
  /-- The character stands there. -/
  stands : text[failure.location.start]? = some failure.character
  /-- The character is a stray one. -/
  stray : Stray failure.character
  /-- In front of it there is none. -/
  first : Clean (text.take failure.location.start)

namespace LexError.AtFirstStray

variable {text : List Char} {failure failure' : LexError}

/-- The character of one failure is not in front of the other. -/
theorem not_lt (h : failure.AtFirstStray text) (h' : failure'.AtFirstStray text) :
    ¬ failure.location.start < failure'.location.start := by
  intro hlt
  have hmem : failure.character ∈ text.take failure'.location.start := by
    apply List.mem_of_getElem? (i := failure.location.start)
    rw [List.getElem?_take_of_lt hlt]
    exact h.stands
  exact h'.first failure.character hmem h.stray

/-- **A text has one first stray character** at most, and one failure that is about it. -/
theorem unique (h : failure.AtFirstStray text) (h' : failure'.AtFirstStray text) : failure = failure' := by
  have hstart : failure.location.start = failure'.location.start :=
    Nat.le_antisymm (Nat.le_of_not_lt (h'.not_lt h)) (Nat.le_of_not_lt (h.not_lt h'))
  have hcharacter := h.stands
  rw [hstart, h'.stands, Option.some.injEq] at hcharacter
  -- the line and the column are counted in front of the same place
  have hline : failure.location.line = failure'.location.line := by
    rw [h.location.line_eq, h'.location.line_eq, hstart]
  have hcolumn : failure.location.column = failure'.location.column := by
    rw [h.location.column_eq, h'.location.column_eq, hstart]
  obtain ⟨character, line, column, start⟩ := failure
  obtain ⟨character', line', column', start'⟩ := failure'
  simp only at hstart hcharacter hline hcolumn
  rw [hstart, hcharacter, hline, hcolumn]

end LexError.AtFirstStray

/-! ## Streams -/

namespace TokenStream

variable {cursor : Cursor} {failure : LexError}

/-- **A failure ends a stream at the first stray character** behind the cursor. -/
theorem failure_stray (h : (ofCursor cursor).ending = .error failure) :
    Stray failure.character ∧ ∃ passed behind, cursor.rest = passed ++ failure.character :: behind ∧
      Clean passed ∧ failure.location = cursor.location.afterAll passed := by
  fun_induction ofCursor cursor with
  | case1 cursor failure here hread =>
      cases h
      obtain ⟨gap, hgap, htext, hlocation⟩ := cursor.skipBlanks_eq
      obtain ⟨c, rest, hrest, rfl, -, hmark, hdigit, hletter⟩ := Cursor.readHere_error_class hread
      obtain ⟨_, -, hstands⟩ := Cursor.read_error_standsAt hread
      refine ⟨⟨hstands.not_blank, hmark, hdigit, hletter⟩, gap, rest, ?_, hgap.clean, hlocation⟩
      rw [htext, hrest]
  | case2 cursor token behind hread hlast => cases h
  | case3 cursor token behind hread hinner following ih =>
      obtain ⟨hstray, passed, rest, hrest, hclean, hlocation⟩ := ih h
      obtain ⟨gap, hgap, htext, hskipped⟩ := cursor.skipBlanks_eq
      have htakes := Cursor.takes_of_readHere hread hinner
      -- blanks, the first lexeme, and what was passed behind it
      refine ⟨hstray, gap ++ (token.lexeme.toList ++ passed), rest, ?_, ?_, ?_⟩
      · rw [htext, htakes.text, hrest]
        simp
      · exact hgap.clean.append (htakes.lexeme.clean.append hclean)
      · rw [hlocation, htakes.behind_location, hskipped, Location.afterAll_append, Location.afterAll_append]

/-- **A stream that comes to an end** has passed no stray character. -/
theorem clean_of_end {last : Token} (h : (ofCursor cursor).ending = .ok last) : Clean cursor.rest := by
  obtain ⟨-, hwritten⟩ := written h
  exact hwritten.clean

/-- **Tokens end in front of the failure**, or where its character begins. -/
theorem ends_before_failure {token : Token} (hmem : token ∈ (ofCursor cursor).tokens)
    (h : (ofCursor cursor).ending = .error failure) :
    token.location.start + token.lexeme.length ≤ failure.location.start := by
  fun_induction ofCursor cursor with
  | case1 cursor failure here hread => cases hmem
  | case2 cursor last behind hread hlast => cases h
  | case3 cursor first behind hread hinner following ih =>
      rcases List.mem_cons.mp hmem with rfl | hmem
      · -- the failure stands behind the cursor that the first token leaves
        obtain ⟨here, hreaches, hstands⟩ := reaches_failure h
        rw [Cursor.start_of_read hread, hstands.location]
        exact hreaches.start_le
      · exact ih hmem h

end TokenStream

/-! ## Scanning -/

theorem LexError.atFirstStray_of_ending {source : String} {failure : LexError}
    (h : (TokenStream.ofSource source).ending = .error failure) : failure.AtFirstStray source.toList := by
  obtain ⟨hstray, passed, behind, hrest, hclean, hlocation⟩ := TokenStream.failure_stray h
  change source.toList = passed ++ failure.character :: behind at hrest
  change failure.location = Location.origin.afterAll passed at hlocation
  have htrue : (Location.origin.afterAll passed).TrueIn source.toList := Location.trueIn_afterAll hrest
  have hstart : (Location.origin.afterAll passed).start = passed.length := by
    rw [Location.start_afterAll]
    exact Nat.zero_add _
  refine ⟨?_, ?_, hstray, ?_⟩
  · rw [hlocation]
    exact htrue
  · rw [hlocation, hstart, hrest]
    simp
  · rw [hlocation, hstart, hrest, List.take_left]
    exact hclean

/-- **A text that has a stray character cannot be scanned**, and no other text is such. -/
theorem exists_scan_error_iff {source : String} :
    (∃ failure, scan source = .error failure) ↔ ∃ c ∈ source.toList, Stray c := by
  constructor
  · rintro ⟨failure, hscan⟩
    have hfirst := LexError.atFirstStray_of_ending (scan_eq_error_iff.mp hscan)
    exact ⟨failure.character, List.mem_of_getElem? hfirst.stands, hfirst.stray⟩
  · rintro ⟨c, hmem, hstray⟩
    cases hending : (TokenStream.ofSource source).ending with
    | ok last =>
        have hclean : Clean source.toList := TokenStream.clean_of_end hending
        exact absurd hstray (hclean c hmem)
    | error failure => exact ⟨failure, scan_eq_error_iff.mpr hending⟩

/-- **Why a text cannot be scanned**: for its first stray character. -/
theorem scan_eq_error_iff_stray {source : String} {failure : LexError} :
    scan source = .error failure ↔ failure.AtFirstStray source.toList := by
  constructor
  · intro hscan
    exact LexError.atFirstStray_of_ending (scan_eq_error_iff.mp hscan)
  · intro hfirst
    have hmem : failure.character ∈ source.toList := List.mem_of_getElem? hfirst.stands
    obtain ⟨failure', hscan⟩ := exists_scan_error_iff.mpr ⟨failure.character, hmem, hfirst.stray⟩
    have hfirst' := LexError.atFirstStray_of_ending (scan_eq_error_iff.mp hscan)
    rw [hscan, hfirst'.unique hfirst]

end ModuleLang
