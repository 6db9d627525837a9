import ModuleLang.Unicode.Ranges

/-!
# `Text.Lines` — lines, blanks at the ends, indentation, and occurrences

Diagnostics show lines of the source, and output checks compare texts line by line. They cut texts in
two different ways, and both are here.

## Contents
- **`splitLines`**: the pieces between line feeds. There is always at least one, and joining them with
  line feeds gives the text back. Pieces have no line feeds (`newline_not_mem_splitLines`), and pieces
  without line feeds are found again in the text that joins them (`splitLines_intercalate`).
- **`lines`**: the lines as a reader counts them: a line feed ends a line, so that nothing follows the
  last one, and a carriage return before it belongs to the line's end.
- **`trim`**: a text without the blanks at its two ends.
- **`spaces`**: the run of spaces in front of carets, statements and tree dumps.
- **`occursIn`**: whether one run of characters stands within another (`occursIn_iff`).
-/

namespace ModuleLang.Text

open Unicode (isWhiteSpace)

/-! ## Cutting a text into lines -/

/-- The pieces of a text between its line feeds. -/
def splitLines (text : String) : List String :=
  (text.toList.splitOn '\n').map String.ofList

/-- A line without one carriage return at its end. -/
def dropReturn (line : List Char) : List Char :=
  if line.getLast? = some '\r' then line.dropLast else line

/-- The lines that the pieces between line feeds make. Behind the last line feed no line begins unless
    there is text, and a carriage return there does not belong to a line's end. -/
def linesOfPieces : List (List Char) → List (List Char)
  | [] => []
  | [last] => if last = [] then [] else [last]
  | piece :: next :: rest => dropReturn piece :: linesOfPieces (next :: rest)

/-- The lines of a text, each without the line feed, or carriage return and line feed, that ends it. -/
def lines (text : String) : List String :=
  (linesOfPieces (text.toList.splitOn '\n')).map String.ofList

/-! ## Lines and line feeds -/

/-- A character that is no line feed belongs to the first piece. -/
theorem splitOn_cons_of_ne {c : Char} (hc : c ≠ '\n') (run : List Char) :
    (c :: run).splitOn '\n' = (run.splitOn '\n').modifyHead (c :: ·) := by
  rw [List.splitOn_cons_eq_if_modifyHead, if_neg (by simpa using hc)]

theorem splitOn_cons_newline (run : List Char) : ('\n' :: run).splitOn '\n' = [] :: run.splitOn '\n' := by
  rw [List.splitOn_cons_eq_if_modifyHead, if_pos (beq_self_eq_true '\n')]

theorem newline_not_mem_splitOn (run : List Char) : ∀ piece ∈ run.splitOn '\n', '\n' ∉ piece := by
  induction run with
  | nil => simp
  | cons c run ih =>
      by_cases hc : c = '\n'
      · subst hc
        rw [splitOn_cons_newline]
        exact List.forall_mem_cons.mpr ⟨List.not_mem_nil, ih⟩
      · rw [splitOn_cons_of_ne hc]
        generalize run.splitOn '\n' = pieces at ih ⊢
        cases pieces with
        | nil => exact nofun
        | cons piece pieces =>
            obtain ⟨hpiece, hpieces⟩ := List.forall_mem_cons.mp ih
            refine List.forall_mem_cons.mpr ⟨fun hmem => ?_, hpieces⟩
            rcases List.mem_cons.mp hmem with heq | hmem
            · exact hc heq.symm
            · exact hpiece hmem

/-- No line of a text has a line feed. -/
theorem newline_not_mem_splitLines (text : String) : ∀ line ∈ splitLines text, '\n' ∉ line.toList := by
  intro line hmem
  obtain ⟨piece, hpiece, rfl⟩ := List.mem_map.mp hmem
  rw [String.toList_ofList]
  exact newline_not_mem_splitOn _ piece hpiece

/-- Lines without line feeds are found again. -/
theorem splitLines_intercalate {lines : List String} (hlines : lines ≠ [])
    (h : ∀ line ∈ lines, '\n' ∉ line.toList) : splitLines ("\n".intercalate lines) = lines := by
  have hpieces : ∀ piece ∈ lines.map String.toList, '\n' ∉ piece := List.forall_mem_map.mpr h
  rw [splitLines, String.toList_intercalate, show "\n".toList = ['\n'] from rfl,
    List.splitOn_intercalate '\n' hpieces (by simpa using hlines), List.map_map]
  simp [Function.comp_def]

/-- If no piece is empty or has a carriage return at its end, then the lines are the pieces. -/
theorem linesOfPieces_eq_self {pieces : List (List Char)}
    (h : ∀ piece ∈ pieces, ∃ c, piece.getLast? = some c ∧ c ≠ '\r') : linesOfPieces pieces = pieces := by
  induction pieces with
  | nil => rfl
  | cons piece pieces ih =>
      obtain ⟨⟨c, hlast, hreturn⟩, hpieces⟩ := List.forall_mem_cons.mp h
      cases pieces with
      | nil =>
          have hne : piece ≠ [] := by
            rintro rfl
            cases hlast
          rw [linesOfPieces, if_neg hne]
      | cons next pieces =>
          have hkeep : dropReturn piece = piece := by
            rw [dropReturn, hlast, if_neg fun hc => hreturn (Option.some.inj hc)]
          rw [linesOfPieces, hkeep, ih hpieces]

/-- Lines without line feeds, that are not empty and have no carriage returns at their ends, are found again by a
    reader too. -/
theorem lines_intercalate {texts : List String} (htexts : texts ≠ []) (h : ∀ text ∈ texts, '\n' ∉ text.toList)
    (hends : ∀ text ∈ texts, ∃ c, text.toList.getLast? = some c ∧ c ≠ '\r') :
    lines ("\n".intercalate texts) = texts := by
  have hpieces : ∀ piece ∈ texts.map String.toList, '\n' ∉ piece := List.forall_mem_map.mpr h
  have hkept : ∀ piece ∈ texts.map String.toList, ∃ c, piece.getLast? = some c ∧ c ≠ '\r' :=
    List.forall_mem_map.mpr hends
  rw [lines, String.toList_intercalate, show "\n".toList = ['\n'] from rfl,
    List.splitOn_intercalate '\n' hpieces (by simpa using htexts), linesOfPieces_eq_self hkept, List.map_map]
  simp [Function.comp_def]

/-- A text that joins others has no characters but theirs and those of the separator. -/
theorem not_mem_intercalate {c : Char} {separator : String} {texts : List String}
    (hseparator : c ∉ separator.toList) (htexts : ∀ text ∈ texts, c ∉ text.toList) :
    c ∉ (separator.intercalate texts).toList := by
  rw [String.toList_intercalate]
  induction texts with
  | nil => exact List.not_mem_nil
  | cons text texts ih =>
      obtain ⟨htext, htexts⟩ := List.forall_mem_cons.mp htexts
      cases texts with
      | nil => simpa using htext
      | cons next texts =>
          simp only [List.map_cons, List.intercalate_cons_cons, List.mem_append, not_or]
          exact ⟨⟨htext, hseparator⟩, ih htexts⟩

/-! ## Blanks at the ends -/

/-- A run of characters without the blanks at its two ends. -/
def trimChars (run : List Char) : List Char :=
  ((run.dropWhile isWhiteSpace).reverse.dropWhile isWhiteSpace).reverse

/-- A text without the blanks at its two ends. -/
def trim (text : String) : String :=
  String.ofList (trimChars text.toList)

/-! ## Indentation -/

/-- A run of `n` spaces. -/
def spaces (n : Nat) : String :=
  String.ofList (List.replicate n ' ')

@[simp] theorem toList_spaces (n : Nat) : (spaces n).toList = List.replicate n ' ' :=
  String.toList_ofList

/-! ## Occurrences -/

/-- Whether `pattern` stands somewhere within a run of characters. -/
def occursIn (pattern : List Char) : List Char → Bool
  | [] => pattern.isEmpty
  | c :: rest => pattern.isPrefixOf (c :: rest) || occursIn pattern rest

theorem occursIn_iff {pattern run : List Char} : occursIn pattern run = true ↔ pattern <:+: run := by
  induction run with
  | nil => simp [occursIn]
  | cons c rest ih => rw [occursIn, Bool.or_eq_true, ih, List.isPrefixOf_iff_prefix, List.infix_cons_iff]

end ModuleLang.Text
