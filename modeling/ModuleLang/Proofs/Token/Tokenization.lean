import ModuleLang.Proofs.Token.Written

/-!
# `Proofs.Token.Tokenization` — the one tokenization of a text

The lexical rules cut a text into lexemes and blanks without reading it from left to right. They allow one cut
only, and scanning finds it.

## Contents
- **Where a lexeme ends** (`goesOn_head_iff`): what follows a lexeme belongs to it if and only if it begins a
  lexeme that joins it. So the rule about neighbours is the rule about the character behind (`closed_iff`).
- **One lexeme off a tokenization** (`Tokenization.nil_iff`, `Tokenization.cons_iff`): the form in which all
  inductions go.
- **Texts in words** (`exists_tokenization_iff_written`): a tokenization is a way to write the text in words.
- **Maximal munch** (`Lexeme.unique`, `Tokenization.unique`): a text has one tokenization, gaps included.
- **`scan_tokenization`**: the tokens of a text are the lexemes of its tokenization.
-/

namespace ModuleLang

open Unicode (isWhiteSpace)

/-- The kind and the spelling of a lexeme. -/
def Piece.word (piece : Piece) : Word :=
  (piece.kind, piece.text)

/-- Lexemes, each with the blanks behind it, as one text. -/
def piecesText (pieces : List Piece) : List Char :=
  pieces.flatMap fun piece => piece.text ++ piece.gap

theorem piecesText_cons (piece : Piece) (pieces : List Piece) :
    piecesText (piece :: pieces) = piece.text ++ (piece.gap ++ piecesText pieces) :=
  List.append_assoc piece.text piece.gap (piecesText pieces)

/-! ## Where a lexeme ends -/

theorem goesOn_iff {kind : TokenKind} {c : Char} : kind.goesOn c = true ↔
    (kind.isWord = true ∧ isWordCharacter c = true) ∨ (kind = .number ∧ isDigit c = true) := by
  cases kind <;> simp [TokenKind.goesOn, TokenKind.isWord]

theorem not_word_of_mark {c : Char} {kind : TokenKind} (h : TokenKind.punctuation? c = some kind) :
    kind.isWord = false ∧ kind ≠ .number := by
  unfold TokenKind.punctuation? at h
  split at h <;> cases h <;> exact ⟨rfl, nofun⟩

/-- The first character of a lexeme tells whether the lexeme is a word, and whether it is a number. -/
theorem Lexeme.head_iff {kind : TokenKind} {c : Char} {rest : List Char} (h : Lexeme kind (c :: rest)) :
    (isWordCharacter c = true ↔ kind.isWord = true) ∧ (isDigit c = true ↔ kind = .number) := by
  rcases lexeme_iff.mp h with ⟨mark, htext, hmark⟩ | ⟨rfl, -, hdigits⟩ | ⟨-, hletters, hkind⟩
  · cases htext
    obtain ⟨hword, hdigit⟩ := classes_of_mark hmark
    obtain ⟨hnoWord, hnoNumber⟩ := not_word_of_mark hmark
    simp [hword, hdigit, hnoWord, hnoNumber]
  · have hdigit := hdigits c List.mem_cons_self
    simp [hdigit, (classes_of_digit hdigit).1, TokenKind.isWord]
  · have hletter := hletters c List.mem_cons_self
    have hword := TokenKind.isWord_of_ofWord hkind
    have hnumber : kind ≠ .number := by
      rintro rfl
      cases hword
    simp [hletter, (classes_of_word hletter).2.2, hword, hnumber]

/-- **Joining.** A lexeme goes on with the first character of another one if and only if the two join. -/
theorem goesOn_head_iff {kind next : TokenKind} {c : Char} {rest : List Char}
    (hnext : Lexeme next (c :: rest)) : kind.goesOn c = true ↔ Joins kind next := by
  obtain ⟨hword, hdigit⟩ := hnext.head_iff
  rw [goesOn_iff, hword, hdigit, Joins]

/-- No lexeme goes on with a blank. -/
theorem goesOn_blank {kind : TokenKind} {c : Char} (h : isWhiteSpace c = true) : kind.goesOn c = false := by
  obtain ⟨hword, -, hdigit⟩ := classes_of_blank h
  rw [← Bool.not_eq_true, goesOn_iff]
  simp [hword, hdigit]

/-- **The character behind a lexeme** does not belong to it if and only if a gap parts the lexeme from a next
    one that it would join. -/
theorem closed_iff {kind : TokenKind} {gap : List Char} {pieces : List Piece} (hgap : Blanks gap)
    (hlexeme : ∀ piece ∈ pieces, Lexeme piece.kind piece.text) :
    Closed kind (gap ++ piecesText pieces) ↔ ∀ next ∈ pieces.head?, Joins kind next.kind → gap ≠ [] := by
  cases gap with
  | cons c gap =>
      have hblank : kind.goesOn c = false := goesOn_blank (hgap c List.mem_cons_self)
      simp [Closed, hblank]
  | nil =>
      cases pieces with
      | nil => simp [Closed, piecesText]
      | cons next pieces =>
          have hnext := hlexeme next List.mem_cons_self
          obtain ⟨c, rest, htext⟩ := List.exists_cons_of_ne_nil hnext.ne_nil
          rw [htext] at hnext
          rw [List.nil_append, piecesText_cons, htext, Closed]
          simp [← goesOn_head_iff hnext]

/-! ## One lexeme off a tokenization -/

theorem separated_cons {piece : Piece} {pieces : List Piece} : Separated (piece :: pieces) ↔
    (∀ next ∈ pieces.head?, Joins piece.kind next.kind → piece.gap ≠ []) ∧ Separated pieces := by
  cases pieces <;> simp [Separated]

namespace Tokenization

variable {source lead : List Char} {piece : Piece} {pieces : List Piece}

/-- Without lexemes, the text is blank. -/
theorem nil_iff : Tokenization source lead [] ↔ source = lead ∧ Blanks source := by
  constructor
  · rintro ⟨hsource, hlead, -, -, -⟩
    rw [List.flatMap_nil, List.append_nil] at hsource
    subst hsource
    exact ⟨rfl, hlead⟩
  · rintro ⟨rfl, hblank⟩
    exact ⟨(List.append_nil source).symm, hblank, nofun, nofun, trivial⟩

/-- **One lexeme off.** In front of the first lexeme there are blanks, and behind it, where it does not go on,
    comes a text with a tokenization of its own. -/
theorem cons_iff : Tokenization source lead (piece :: pieces) ↔
    ∃ rest, source = lead ++ (piece.text ++ rest) ∧ Blanks lead ∧ Lexeme piece.kind piece.text ∧
      Closed piece.kind rest ∧ Tokenization rest piece.gap pieces := by
  constructor
  · rintro ⟨hsource, hlead, hlexemes, hgaps, hseparated⟩
    obtain ⟨hlexeme, hlexemes⟩ := List.forall_mem_cons.mp hlexemes
    obtain ⟨hgap, hgaps⟩ := List.forall_mem_cons.mp hgaps
    obtain ⟨hnext, hseparated⟩ := separated_cons.mp hseparated
    refine ⟨piece.gap ++ piecesText pieces, ?_, hlead, hlexeme, ?_, rfl, hgap, hlexemes, hgaps, hseparated⟩
    · rw [hsource, ← piecesText_cons]
      rfl
    · exact (closed_iff hgap hlexemes).mpr hnext
  · rintro ⟨rest, rfl, hlead, hlexeme, hclosed, hrest, hgap, hlexemes, hgaps, hseparated⟩
    subst hrest
    refine ⟨?_, hlead, List.forall_mem_cons.mpr ⟨hlexeme, hlexemes⟩, List.forall_mem_cons.mpr ⟨hgap, hgaps⟩, ?_⟩
    · exact congrArg (lead ++ ·) (piecesText_cons piece pieces).symm
    · exact separated_cons.mpr ⟨(closed_iff hgap hlexemes).mp hclosed, hseparated⟩

end Tokenization

/-! ## Tokenizations and words -/

/-- **A tokenization writes the text in words**, and a text that is written in words has a tokenization. -/
theorem exists_tokenization_iff_written {source : List Char} {words : List Word} :
    (∃ lead pieces, Tokenization source lead pieces ∧ pieces.map Piece.word = words) ↔
      Written words source := by
  constructor
  · rintro ⟨lead, pieces, h, rfl⟩
    induction pieces generalizing source lead with
    | nil => exact .nil (Tokenization.nil_iff.mp h).2
    | cons piece pieces ih =>
        obtain ⟨rest, rfl, hlead, hlexeme, hclosed, hrest⟩ := Tokenization.cons_iff.mp h
        exact .cons hlead hlexeme hclosed (ih _ hrest)
  · intro h
    induction h with
    | @nil gap hgap => exact ⟨gap, [], Tokenization.nil_iff.mpr ⟨rfl, hgap⟩, rfl⟩
    | @cons gap text rest kind words hgap hlexeme hclosed _ ih =>
        -- the blanks in front of the rest are the gap of this lexeme
        obtain ⟨lead, pieces, hrest, hwords⟩ := ih
        refine ⟨gap, ⟨kind, text, lead⟩ :: pieces, ?_, ?_⟩
        · exact Tokenization.cons_iff.mpr ⟨rest, rfl, hgap, hlexeme, hclosed, hrest⟩
        · rw [List.map_cons, hwords, Piece.word]

/-! ## Maximal munch -/

/-- Blanks end where the first character that is not blank stands. -/
theorem Blanks.unique {gap gap' rest rest' : List Char} (hgap : Blanks gap) (hgap' : Blanks gap')
    (hrest : ∀ c ∈ rest.head?, isWhiteSpace c = false) (hrest' : ∀ c ∈ rest'.head?, isWhiteSpace c = false)
    (h : gap ++ rest = gap' ++ rest') : gap = gap' ∧ rest = rest' := by
  -- skipping blanks leaves both rests
  have hskip := Cursor.skipBlanks_append hgap hrest .origin
  rw [h, Cursor.skipBlanks_append hgap' hrest' .origin] at hskip
  have hsame : rest = rest' := (congrArg Cursor.rest hskip).symm
  subst hsame
  exact ⟨List.append_cancel_right h, rfl⟩

/-- **Maximal munch.** A text begins with one lexeme at most that does not go on. -/
theorem Lexeme.unique {kind kind' : TokenKind} {text text' rest rest' : List Char}
    (hlexeme : Lexeme kind text) (hlexeme' : Lexeme kind' text') (hclosed : Closed kind rest)
    (hclosed' : Closed kind' rest') (h : text ++ rest = text' ++ rest') :
    kind = kind' ∧ text = text' ∧ rest = rest' := by
  -- both lexemes are what is read in front of the text
  have hread := Cursor.readHere_lexeme hlexeme hclosed .origin
  rw [h, Cursor.readHere_lexeme hlexeme' hclosed' .origin] at hread
  injection hread with htoken hbehind
  injection htoken with hkind htext
  injection hbehind with hrest
  exact ⟨hkind.symm, (String.ofList_injective htext).symm, hrest.symm⟩

/-- There is no lexeme in a blank text. -/
theorem Tokenization.not_blank {source lead : List Char} {piece : Piece} {pieces : List Piece}
    (h : Tokenization source lead (piece :: pieces)) : ¬ Blanks source := by
  intro hblank
  obtain ⟨rest, rfl, -, hlexeme, -⟩ := cons_iff.mp h
  obtain ⟨c, text, htext⟩ := List.exists_cons_of_ne_nil hlexeme.ne_nil
  have hc : isWhiteSpace c = false := hlexeme.head_not_blank rest c (by rw [htext]; rfl)
  have hmem : c ∈ lead ++ (piece.text ++ rest) := by simp [htext]
  rw [hblank c hmem] at hc
  cases hc

/-- **A text has one tokenization.** -/
theorem Tokenization.unique {source lead lead' : List Char} {pieces pieces' : List Piece}
    (h : Tokenization source lead pieces) (h' : Tokenization source lead' pieces') :
    lead = lead' ∧ pieces = pieces' := by
  induction pieces generalizing source lead lead' pieces' with
  | nil =>
      obtain ⟨hlead, hblank⟩ := nil_iff.mp h
      cases pieces' with
      | nil => exact ⟨hlead.symm.trans (nil_iff.mp h').1, rfl⟩
      | cons piece' pieces' => exact absurd hblank h'.not_blank
  | cons piece pieces ih =>
      cases pieces' with
      | nil => exact absurd (nil_iff.mp h').2 h.not_blank
      | cons piece' pieces' =>
          obtain ⟨rest, rfl, hlead, hlexeme, hclosed, hrest⟩ := cons_iff.mp h
          obtain ⟨rest', hsource, hlead', hlexeme', hclosed', hrest'⟩ := cons_iff.mp h'
          obtain ⟨hlead, hbody⟩ :=
            hlead.unique hlead' (hlexeme.head_not_blank rest) (hlexeme'.head_not_blank rest') hsource
          obtain ⟨hkind, htext, hbehind⟩ := hlexeme.unique hlexeme' hclosed hclosed' hbody
          subst hbehind
          obtain ⟨hgap, hpieces⟩ := ih hrest hrest'
          refine ⟨hlead, ?_⟩
          obtain ⟨kind, text, gap⟩ := piece
          obtain ⟨kind', text', gap'⟩ := piece'
          cases hkind
          cases htext
          cases hgap
          rw [hpieces]

/-! ## Scanning -/

/-- **Scanning finds the tokenization.** A text scans to the lexemes of its tokenization, in their order and
    with the end token behind them, and to nothing else; a text without a tokenization does not scan. There is
    one tokenization at most. -/
theorem scan_tokenization (source : String) :
    (∀ words : List Word,
      (∃ tokens, scan source = .ok tokens ∧ tokens.map Token.word = words ++ [(.eof, [])]) ↔
        ∃ lead pieces, Tokenization source.toList lead pieces ∧ pieces.map Piece.word = words) ∧
    ∀ lead lead' pieces pieces', Tokenization source.toList lead pieces →
      Tokenization source.toList lead' pieces' → lead = lead' ∧ pieces = pieces' := by
  refine ⟨fun words => ?_, fun lead lead' pieces pieces' h h' => h.unique h'⟩
  rw [exists_scan_iff_written, exists_tokenization_iff_written]

/-- A keyword ends at a line feed, and a number at the word that touches it. -/
theorem scan_tokenization_var :
    let pieces : List Piece :=
      [⟨.varKeyword, ['v', 'a', 'r'], ['\n']⟩, ⟨.number, ['1', '2'], []⟩, ⟨.identifier, ['v', 'a'], []⟩]
    (∃ tokens, scan "var\n12va" = .ok tokens ∧ tokens.map Token.word = pieces.map Piece.word ++ [(.eof, [])]) ∧
      ∀ lead pieces', Tokenization "var\n12va".toList lead pieces' → pieces' = pieces := by
  intro pieces
  have hv : isWordCharacter 'v' = true := by decide +kernel
  have ha : isWordCharacter 'a' = true := by decide +kernel
  have hr : isWordCharacter 'r' = true := by decide +kernel
  have htokenization : Tokenization "var\n12va".toList [] pieces := by
    refine ⟨rfl, nofun, ?_, ?_, ?_⟩
    · simp only [pieces, List.forall_mem_cons]
      refine ⟨.word nofun ?_ rfl, .number nofun ?_, .word nofun ?_ rfl, nofun⟩
      · simp only [List.forall_mem_cons]
        exact ⟨hv, ha, hr, nofun⟩
      · simp only [List.forall_mem_cons]
        exact ⟨by decide, by decide, nofun⟩
      · simp only [List.forall_mem_cons]
        exact ⟨hv, ha, nofun⟩
    · simp only [pieces, List.forall_mem_cons]
      exact ⟨List.forall_mem_singleton.mpr (by decide +kernel), nofun, nofun, nofun⟩
    · simp [pieces, Separated, Joins, TokenKind.isWord]
  refine ⟨((scan_tokenization _).1 _).mpr ⟨[], pieces, htokenization, rfl⟩, fun lead pieces' h => ?_⟩
  exact ((scan_tokenization _).2 _ _ _ _ h htokenization).2

end ModuleLang
