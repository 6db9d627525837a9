import ModuleLang.Language.Lexical
import ModuleLang.Token.Stream

/-!
# `Proofs.Token.Written` — which texts scan to which words

A text is written in words: blanks and lexemes take turns, and no lexeme goes on with the character behind
it. Scanning a text gives the words that it is written in, and no others.

## Contents
- **Character classes.** Blanks, marks, digits and the characters of words exclude each other
  (`classes_of_word`, `classes_of_digit`, `classes_of_mark`).
- **Ends of lexemes** (`Closed`, `Breaks`): a text with which one lexeme, or any lexeme at all, does not go on.
- **One lexeme** (`Cursor.Takes`, `readHere_lexeme`): what is read at a place, in terms of the lexical rules.
- **`Written`**: a text is written in a row of words, each with its kind.
- **`exists_scan_iff_written`**: the words of a text are the words of its tokens.
-/

namespace ModuleLang

open Unicode (isAlphabetic isWhiteSpace alphabetic whiteSpace Ranges)

/-! ## Character classes -/

/-- A test that holds at each point of each range holds of all members. -/
theorem Unicode.Ranges.forall_contains {ranges : Ranges} (test : Nat → Bool)
    (h : ∀ range ∈ ranges, ∀ n < range.2 + 1 - range.1, test (range.1 + n)) {point : Nat}
    (hpoint : ranges.contains point = true) : test point = true := by
  induction ranges with
  | nil => cases hpoint
  | cons range rest ih =>
      -- a point below the first range is in none, and a point above it is in one of the others
      obtain ⟨hrange, hrest⟩ := List.forall_mem_cons.mp h
      rw [contains] at hpoint
      split at hpoint
      case isTrue => cases hpoint
      case isFalse hfirst =>
        split at hpoint
        case isTrue hlast =>
          have hinside := hrange (point - range.1) (by omega)
          rwa [Nat.add_sub_cancel' (by omega)] at hinside
        case isFalse => exact ih hrest hpoint

/-- Whether a code point belongs to neither words nor marks. -/
def outsideWords (point : Nat) : Bool :=
  !isWordCharacter (.ofNat point) && (TokenKind.punctuation? (.ofNat point)).isNone

theorem outsideWords_iff {c : Char} : outsideWords c.toNat = true ↔
    isWordCharacter c = false ∧ TokenKind.punctuation? c = none := by
  rw [outsideWords, Char.ofNat_toNat, Bool.and_eq_true, Bool.not_eq_true', Option.isNone_iff_eq_none]

/-- Digits are not in the classes of words and marks. -/
theorem classes_of_digit {c : Char} (h : isDigit c = true) :
    isWordCharacter c = false ∧ TokenKind.punctuation? c = none := by
  have hrange : Ranges.contains [(0x30, 0x39)] c.toNat = true := by
    simp only [isDigit, Bool.and_eq_true, decide_eq_true_eq, Char.le_def, UInt32.le_iff_toNat_le] at h
    obtain ⟨hfirst, hlast⟩ := h
    change 48 ≤ c.toNat at hfirst
    change c.toNat ≤ 57 at hlast
    rw [Ranges.contains, if_neg (by omega), if_pos (by omega)]
  exact outsideWords_iff.mp (Ranges.forall_contains outsideWords (by decide +kernel) hrange)

/-- Blanks are in no other class. -/
theorem classes_of_blank {c : Char} (h : isWhiteSpace c = true) :
    isWordCharacter c = false ∧ TokenKind.punctuation? c = none ∧ isDigit c = false := by
  have hdigit := Ranges.forall_contains (fun point => !isDigit (.ofNat point)) (by decide +kernel) h
  simp only [Char.ofNat_toNat, Bool.not_eq_true'] at hdigit
  obtain ⟨hword, hmark⟩ :=
    outsideWords_iff.mp (Ranges.forall_contains outsideWords (by decide +kernel) h)
  exact ⟨hword, hmark, hdigit⟩

/-- Marks are in no other class. -/
theorem classes_of_mark {c : Char} {kind : TokenKind} (h : TokenKind.punctuation? c = some kind) :
    isWordCharacter c = false ∧ isDigit c = false := by
  unfold TokenKind.punctuation? at h
  split at h
  all_goals cases h
  all_goals decide +kernel

/-- The characters of words are in no other class. -/
theorem classes_of_word {c : Char} (h : isWordCharacter c = true) :
    isWhiteSpace c = false ∧ TokenKind.punctuation? c = none ∧ isDigit c = false := by
  refine ⟨?_, ?_, ?_⟩
  · cases hblank : isWhiteSpace c with
    | false => rfl
    | true => cases h.symm.trans (classes_of_blank hblank).1
  · cases hmark : TokenKind.punctuation? c with
    | none => rfl
    | some kind => cases h.symm.trans (classes_of_mark hmark).1
  · cases hdigit : isDigit c with
    | false => rfl
    | true => cases h.symm.trans (classes_of_digit hdigit).1

/-! ## One lexeme -/

/-- Whether lexemes of this kind go on with a character. -/
def TokenKind.goesOn : TokenKind → Char → Bool
  | .number => isDigit
  | .identifier | .moduleKeyword | .varKeyword => isWordCharacter
  | _ => fun _ => false

/-- The characters behind a lexeme of this kind do not belong to it. -/
def Closed (kind : TokenKind) (rest : List Char) : Prop :=
  ∀ c ∈ rest.head?, kind.goesOn c = false

namespace Cursor

/-- A run of characters of a class is taken as a whole, if no character of the class follows. -/
theorem take_run {p : Char → Bool} {run rest : List Char} (hrun : ∀ c ∈ run, p c = true)
    (hrest : ∀ c ∈ rest.head?, p c = false) (location : Location) :
    take ⟨run ++ rest, location⟩ p = (run, ⟨rest, location.afterAll run⟩) := by
  have hbehind : rest.takeWhile p = [] ∧ rest.dropWhile p = rest := by
    cases rest with
    | nil => exact ⟨rfl, rfl⟩
    | cons c rest =>
        have hc := hrest c rfl
        exact ⟨List.takeWhile_cons_of_neg (by rw [hc]; decide), List.dropWhile_cons_of_neg (by rw [hc]; decide)⟩
  simp only [take, List.takeWhile_append_of_pos hrun, List.dropWhile_append_of_pos hrun, hbehind,
    List.append_nil]

/-- What is taken is a run of characters of the class, and no character of the class follows. -/
theorem take_eq {p : Char → Bool} (cursor : Cursor) :
    cursor.rest = (cursor.take p).1 ++ (cursor.take p).2.rest ∧
      (∀ c ∈ (cursor.take p).1, p c = true) ∧ (∀ c ∈ (cursor.take p).2.rest.head?, p c = false) := by
  refine ⟨List.takeWhile_append_dropWhile.symm, fun c hc => ?_, ?_⟩
  · exact List.all_eq_true.mp List.all_takeWhile c hc
  · intro c hc
    have hstop := List.head?_dropWhile_not p cursor.rest
    rwa [show (cursor.rest.dropWhile p).head? = some c from hc] at hstop

end Cursor

theorem TokenKind.ofWord_iff {kind : TokenKind} {letters : List Char} :
    kind.OfWord letters ↔ kind = ofWord (.ofList letters) := by
  have hmodule : String.ofList letters = "module" ↔ letters = ['m', 'o', 'd', 'u', 'l', 'e'] := by
    rw [← String.toList_inj, String.toList_ofList]
    rfl
  have hvar : String.ofList letters = "var" ↔ letters = ['v', 'a', 'r'] := by
    rw [← String.toList_inj, String.toList_ofList]
    rfl
  simp only [OfWord, ofWord, keyword?, hmodule, hvar]
  split
  case isTrue => rfl
  case isFalse => split <;> rfl

theorem TokenKind.isWord_of_ofWord {kind : TokenKind} {letters : List Char} (h : kind.OfWord letters) :
    kind.isWord = true := by
  rw [OfWord] at h
  split at h
  case isTrue => rw [h]; rfl
  case isFalse => split at h <;> rw [h] <;> rfl

theorem TokenKind.goesOn_of_word {kind : TokenKind} (h : kind.isWord = true) :
    kind.goesOn = isWordCharacter := by
  cases kind <;> first
    | rfl
    | cases h

/-- No lexeme of a mark goes on. -/
theorem closed_of_mark {c : Char} {kind : TokenKind} (h : TokenKind.punctuation? c = some kind)
    (rest : List Char) : Closed kind rest := by
  intro next _
  unfold TokenKind.punctuation? at h
  split at h <;> cases h <;> rfl

/-- A text that continues neither a word nor a number. -/
def Breaks (rest : List Char) : Prop :=
  ∀ c ∈ rest.head?, isWordCharacter c = false ∧ isDigit c = false

theorem Breaks.closed {rest : List Char} (h : Breaks rest) (kind : TokenKind) : Closed kind rest := by
  intro c hc
  obtain ⟨hword, hdigit⟩ := h c hc
  cases kind <;> first
    | rfl
    | exact hword
    | exact hdigit

theorem Breaks.blank {c : Char} (h : isWhiteSpace c = true) (rest : List Char) : Breaks (c :: rest) := by
  rintro _ ⟨⟩
  obtain ⟨hword, -, hdigit⟩ := classes_of_blank h
  exact ⟨hword, hdigit⟩

/-- Blanks in front of a text that continues no lexeme do not continue one either. -/
theorem Breaks.blanks {gap rest : List Char} (hgap : Blanks gap) (h : Breaks rest) : Breaks (gap ++ rest) := by
  cases gap with
  | nil => exact h
  | cons c gap => exact .blank (hgap c List.mem_cons_self) _

theorem Blanks.breaks {gap : List Char} (hgap : Blanks gap) : Breaks gap := by
  rw [← List.append_nil gap]
  exact .blanks hgap nofun

theorem Breaks.mark {c : Char} {kind : TokenKind} (h : TokenKind.punctuation? c = some kind)
    (rest : List Char) : Breaks (c :: rest) := by
  rintro _ ⟨⟩
  exact classes_of_mark h

/-- The three sorts of lexemes: marks, numbers and words. -/
theorem lexeme_iff {kind : TokenKind} {text : List Char} : Lexeme kind text ↔
    (∃ c, text = [c] ∧ TokenKind.punctuation? c = some kind) ∨
    (kind = .number ∧ text ≠ [] ∧ ∀ c ∈ text, isDigit c = true) ∨
    (text ≠ [] ∧ (∀ c ∈ text, isWordCharacter c = true) ∧ kind.OfWord text) := by
  constructor
  · intro h
    cases h with
    | number hne hdigits => exact .inr (.inl ⟨rfl, hne, hdigits⟩)
    | word hne hletters hkind => exact .inr (.inr ⟨hne, hletters, hkind⟩)
    | _ => exact .inl ⟨_, rfl, rfl⟩
  · rintro (⟨c, rfl, hmark⟩ | ⟨rfl, hne, hdigits⟩ | ⟨hne, hletters, hkind⟩)
    · unfold TokenKind.punctuation? at hmark
      split at hmark <;> cases hmark <;> constructor
    · exact .number hne hdigits
    · exact .word hne hletters hkind

theorem lexeme_of_mark {c : Char} {kind : TokenKind} (h : TokenKind.punctuation? c = some kind) :
    Lexeme kind [c] :=
  lexeme_iff.mpr (.inl ⟨c, rfl, h⟩)

namespace Cursor

/-- **A token stands in front of a cursor**: its lexeme does, and ends where the other cursor stands. -/
structure Takes (here : Cursor) (token : Token) (behind : Cursor) : Prop where
  /-- The text in front of the cursor begins with the lexeme. -/
  text : here.rest = token.lexeme.toList ++ behind.rest
  /-- The lexeme is a spelling of the token's kind. -/
  lexeme : Lexeme token.kind token.lexeme.toList
  /-- The lexeme does not go on. -/
  closed : Closed token.kind behind.rest
  /-- The token begins at the cursor. -/
  location : token.location = here.location
  /-- The other cursor stands behind the lexeme. -/
  behind_location : behind.location = here.location.afterAll token.lexeme.toList

/-- A lexeme that stands in front of a cursor is read. -/
theorem readHere_of_takes {here behind : Cursor} {token : Token} (h : here.Takes token behind) :
    readHere here = .ok token behind := by
  obtain ⟨kind, lexeme, location⟩ := token
  obtain ⟨rest, here⟩ := here
  obtain ⟨following, behind⟩ := behind
  obtain ⟨htext, hlexeme, hclosed, hlocation, hbehind⟩ := h
  simp only at htext hlexeme hclosed hlocation hbehind
  -- as a list of characters the lexeme can be taken apart
  rw [← String.ofList_toList (s := lexeme)]
  generalize lexeme.toList = text at *
  subst htext hlocation hbehind
  rcases lexeme_iff.mp hlexeme with ⟨c, rfl, hmark⟩ | ⟨rfl, hne, hdigits⟩ | ⟨hne, hletters, hkind⟩
  · simp only [readHere, List.singleton_append, hmark]
    rfl
  · cases text with
    | nil => exact absurd rfl hne
    | cons digit digits =>
        -- a digit is no mark, so the text is read as a number, and as far as it has digits
        have hfirst := hdigits digit List.mem_cons_self
        have htake := take_run hdigits hclosed location
        simp only [List.cons_append] at htake
        simp only [readHere, List.cons_append, (classes_of_digit hfirst).2, hfirst, htake, if_true]
  · cases text with
    | nil => exact absurd rfl hne
    | cons letter letters =>
        -- a letter is neither a mark nor a digit, so the text is read as a word
        have hfirst := hletters letter List.mem_cons_self
        obtain ⟨-, hmark, hdigit⟩ := classes_of_word hfirst
        rw [Closed, TokenKind.goesOn_of_word (TokenKind.isWord_of_ofWord hkind)] at hclosed
        have htake := take_run hletters hclosed location
        simp only [List.cons_append] at htake
        simp only [readHere, List.cons_append, hmark, hdigit, hfirst, htake, if_true,
          TokenKind.ofWord_iff.mp hkind]
        rfl

/-- A lexeme that does not go on is read, whatever comes behind it. -/
theorem readHere_lexeme {kind : TokenKind} {text rest : List Char} (hlexeme : Lexeme kind text)
    (hclosed : Closed kind rest) (location : Location) : readHere ⟨text ++ rest, location⟩ =
      .ok ⟨kind, .ofList text, location⟩ ⟨rest, location.afterAll text⟩ := by
  have htext : (String.ofList text).toList = text := String.toList_ofList
  refine readHere_of_takes ⟨?_, ?_, hclosed, rfl, ?_⟩
  · rw [htext]
  · rwa [htext]
  · rw [htext]

/-- A run of characters that is a lexeme stands in front of the cursor that takes it. -/
theorem takes_of_take {here : Cursor} {p : Char → Bool} {kind : TokenKind}
    (hlexeme : Lexeme kind (here.take p).1) (hgoesOn : kind.goesOn = p) :
    here.Takes ⟨kind, .ofList (here.take p).1, here.location⟩ (here.take p).2 := by
  obtain ⟨htext, -, hclosed⟩ := take_eq (p := p) here
  refine ⟨?_, ?_, ?_, rfl, ?_⟩
  · rwa [String.toList_ofList]
  · rwa [String.toList_ofList]
  · rwa [Closed, hgoesOn]
  · rw [String.toList_ofList]
    rfl

theorem take_ne_nil {here : Cursor} {p : Char → Bool} {c : Char} {rest : List Char}
    (hrest : here.rest = c :: rest) (hc : p c = true) : (here.take p).1 ≠ [] := by
  rw [take, hrest, List.takeWhile_cons_of_pos hc]
  exact List.cons_ne_nil _ _

/-- What is read is a lexeme that stands in front of the cursor. -/
theorem takes_of_readHere {here behind : Cursor} {token : Token} (h : readHere here = .ok token behind)
    (hinner : token.kind ≠ .eof) : here.Takes token behind := by
  unfold readHere at h
  split at h
  case h_1 =>
    cases h
    exact absurd rfl hinner
  case h_2 c rest hrest =>
    split at h
    case h_1 kind hmark =>
      cases h
      have hlexeme : c.toString.toList = [c] := String.toList_singleton c
      refine ⟨by rw [hlexeme, hrest]; rfl, ?_, closed_of_mark hmark _, rfl, by rw [hlexeme]; rfl⟩
      rw [hlexeme]
      exact lexeme_of_mark hmark
    case h_2 hmark =>
      split at h
      case isTrue hdigit =>
        cases h
        exact takes_of_take (.number (take_ne_nil hrest hdigit) (take_eq here).2.1) rfl
      case isFalse hdigit =>
        split at h
        case isTrue hletter =>
          cases h
          have hkind := TokenKind.ofWord_iff.mpr (rfl : TokenKind.ofWord (.ofList (here.take isWordCharacter).1) = _)
          exact takes_of_take (.word (take_ne_nil hrest hletter) (take_eq here).2.1 hkind)
            (TokenKind.goesOn_of_word (TokenKind.isWord_of_ofWord hkind))
        case isFalse => cases h

/-! ## Blanks -/

theorem skipBlanks_eq (cursor : Cursor) :
    ∃ gap, Blanks gap ∧ cursor.rest = gap ++ cursor.skipBlanks.rest ∧
      cursor.skipBlanks.location = cursor.location.afterAll gap := by
  obtain ⟨htext, hblank, -⟩ := take_eq cursor (p := isWhiteSpace)
  exact ⟨_, hblank, htext, rfl⟩

/-- Blanks are skipped up to a character that is not blank, or to the end. -/
theorem skipBlanks_append {gap rest : List Char} (hgap : Blanks gap)
    (hrest : ∀ c ∈ rest.head?, isWhiteSpace c = false) (location : Location) :
    skipBlanks ⟨gap ++ rest, location⟩ = ⟨rest, location.afterAll gap⟩ := by
  rw [skipBlanks, take_run hgap hrest]

end Cursor

theorem lexeme_number_iff {text : List Char} :
    Lexeme .number text ↔ text ≠ [] ∧ ∀ c ∈ text, isDigit c = true := by
  constructor
  · intro h
    cases h with
    | number hne hdigits => exact ⟨hne, hdigits⟩
    | word _ _ hkind => cases TokenKind.isWord_of_ofWord hkind
  · rintro ⟨hne, hdigits⟩
    exact .number hne hdigits

theorem lexeme_identifier_iff {text : List Char} :
    Lexeme .identifier text ↔ text ≠ [] ∧ (∀ c ∈ text, isWordCharacter c = true) ∧
      text ≠ ['m', 'o', 'd', 'u', 'l', 'e'] ∧ text ≠ ['v', 'a', 'r'] := by
  constructor
  · intro h
    cases h with
    | word hne hletters hkind =>
        refine ⟨hne, hletters, ?_, ?_⟩
        · rintro rfl
          cases hkind
        · rintro rfl
          cases hkind
  · rintro ⟨hne, hletters, hmodule, hvar⟩
    refine .word hne hletters ?_
    rw [TokenKind.OfWord, if_neg hmodule, if_neg hvar]

theorem Lexeme.ne_eof {kind : TokenKind} {text : List Char} (h : Lexeme kind text) : kind ≠ .eof := by
  cases h with
  | word _ _ hkind =>
      rw [TokenKind.ofWord_iff.mp hkind]
      exact TokenKind.ofWord_ne_eof _
  | _ => exact nofun

theorem Lexeme.ne_nil {kind : TokenKind} {text : List Char} (h : Lexeme kind text) : text ≠ [] := by
  rcases lexeme_iff.mp h with ⟨c, rfl, -⟩ | ⟨-, hne, -⟩ | ⟨hne, -⟩
  · exact List.cons_ne_nil c []
  · exact hne
  · exact hne

/-- There are no blanks in a lexeme. -/
theorem Lexeme.not_blank {kind : TokenKind} {text : List Char} (h : Lexeme kind text) :
    ∀ c ∈ text, isWhiteSpace c = false := by
  intro c hmem
  refine Bool.eq_false_iff.mpr fun hblank => ?_
  obtain ⟨hword, hmark, hdigit⟩ := classes_of_blank hblank
  rcases lexeme_iff.mp h with ⟨mark, rfl, hmark'⟩ | ⟨-, -, hdigits⟩ | ⟨-, hletters, -⟩
  · cases List.mem_singleton.mp hmem
    cases hmark.symm.trans hmark'
  · cases hdigit.symm.trans (hdigits c hmem)
  · cases hword.symm.trans (hletters c hmem)

theorem ne_newline_of_not_blank {c : Char} (h : isWhiteSpace c = false) : c ≠ '\n' := by
  rintro rfl
  exact absurd h (by decide +kernel)

/-- A lexeme is on one line. -/
theorem Lexeme.newline_not_mem {kind : TokenKind} {text : List Char} (h : Lexeme kind text) : '\n' ∉ text := by
  intro hmem
  exact ne_newline_of_not_blank (h.not_blank _ hmem) rfl

/-- No lexeme begins with a blank. -/
theorem Lexeme.head_not_blank {kind : TokenKind} {text : List Char} (h : Lexeme kind text)
    (rest : List Char) : ∀ c ∈ (text ++ rest).head?, isWhiteSpace c = false := by
  obtain ⟨first, more, rfl⟩ := List.exists_cons_of_ne_nil h.ne_nil
  intro c hc
  cases hc
  exact h.not_blank first List.mem_cons_self

/-! ## Texts and words -/

/-- A word of a text: the kind and the spelling of a token. -/
abbrev Word := TokenKind × List Char

/-- The word of a token. -/
def Token.word (token : Token) : Word :=
  (token.kind, token.lexeme.toList)

/-- **A text is written in words.** Blanks stand before, between and behind them, and no lexeme goes on. -/
inductive Written : List Word → List Char → Prop where
  | nil {gap : List Char} : Blanks gap → Written [] gap
  | cons {gap text rest : List Char} {kind : TokenKind} {words : List Word} : Blanks gap →
      Lexeme kind text → Closed kind rest → Written words rest →
      Written ((kind, text) :: words) (gap ++ (text ++ rest))

/-- All words of a text are lexemes. -/
theorem Written.lexeme {words : List Word} {text : List Char} (h : Written words text) :
    ∀ word ∈ words, Lexeme word.1 word.2 := by
  induction h with
  | nil => exact nofun
  | cons _ hlexeme _ _ ih => exact List.forall_mem_cons.mpr ⟨hlexeme, ih⟩

namespace TokenStream

theorem ofCursor_of_error {cursor here : Cursor} {failure : LexError}
    (hread : cursor.read = .error failure here) : ofCursor cursor = ⟨[], .error failure⟩ := by
  rw [ofCursor]
  split
  case h_1 hread' =>
    cases hread.symm.trans hread'
    rfl
  case h_2 hread' => cases hread.symm.trans hread'

theorem ofCursor_of_end {cursor behind : Cursor} {token : Token}
    (hread : cursor.read = .ok token behind) (hlast : token.kind = .eof) :
    ofCursor cursor = ⟨[], .ok token⟩ := by
  rw [ofCursor]
  split
  case h_1 hread' => cases hread.symm.trans hread'
  case h_2 hread' =>
    cases hread.symm.trans hread'
    exact dif_pos hlast

theorem ofCursor_of_read {cursor behind : Cursor} {token : Token}
    (hread : cursor.read = .ok token behind) (hinner : token.kind ≠ .eof) :
    ofCursor cursor = ⟨token :: (ofCursor behind).tokens, (ofCursor behind).ending⟩ := by
  rw [ofCursor]
  split
  case h_1 hread' => cases hread.symm.trans hread'
  case h_2 hread' =>
    cases hread.symm.trans hread'
    exact dif_neg hinner

/-- The end token is read behind blanks only, and has no spelling. -/
theorem blank_of_end {cursor behind : Cursor} {token : Token} (hread : cursor.read = .ok token behind)
    (hlast : token.kind = .eof) : Blanks cursor.rest ∧ token.word = (.eof, []) := by
  obtain ⟨gap, hgap, htext, -⟩ := cursor.skipBlanks_eq
  rcases Cursor.readHere_cases cursor.skipBlanks with ⟨hrest, hend⟩ | ⟨_, _, hfound, hinner, _⟩ | ⟨_, hfailed⟩
  · cases hread.symm.trans hend
    rw [htext, hrest, List.append_nil]
    exact ⟨hgap, rfl⟩
  · cases hread.symm.trans hfound
    exact absurd hlast hinner
  · cases hread.symm.trans hfailed

/-- **Reading finds words that the text is written in.** -/
theorem written {cursor : Cursor} {last : Token} (hending : (ofCursor cursor).ending = .ok last) :
    last.word = (.eof, []) ∧ Written ((ofCursor cursor).tokens.map Token.word) cursor.rest := by
  fun_induction ofCursor cursor with
  | case1 cursor failure here hread => cases hending
  | case2 cursor token behind hread hlast =>
      cases hending
      obtain ⟨hblank, hword⟩ := blank_of_end hread hlast
      exact ⟨hword, .nil hblank⟩
  | case3 cursor token behind hread hinner following ih =>
      obtain ⟨hword, hwritten⟩ := ih hending
      obtain ⟨gap, hgap, htext, -⟩ := cursor.skipBlanks_eq
      obtain ⟨htext', hlexeme, hclosed, -, -⟩ := Cursor.takes_of_readHere hread hinner
      rw [htext, htext']
      exact ⟨hword, .cons hgap hlexeme hclosed hwritten⟩

/-- **Reading finds the words that a text is written in.** -/
theorem of_written {words : List Word} {text : List Char} (h : Written words text) (location : Location) :
    ∃ last, (ofCursor ⟨text, location⟩).ending = .ok last ∧ last.word = (.eof, []) ∧
      (ofCursor ⟨text, location⟩).tokens.map Token.word = words := by
  induction h generalizing location with
  | @nil gap hgap =>
      have hread : Cursor.read ⟨gap, location⟩ =
          .ok ⟨.eof, "", location.afterAll gap⟩ ⟨[], location.afterAll gap⟩ := by
        have hskip := @Cursor.skipBlanks_append gap [] hgap nofun location
        rw [List.append_nil] at hskip
        rw [Cursor.read, hskip]
        rfl
      rw [ofCursor_of_end hread rfl]
      exact ⟨_, rfl, rfl, rfl⟩
  | @cons gap text rest kind words hgap hlexeme hclosed _ ih =>
      -- the blanks end at the lexeme, and the lexeme ends where it ended in the row of words
      have hread : Cursor.read ⟨gap ++ (text ++ rest), location⟩ =
          .ok ⟨kind, .ofList text, location.afterAll gap⟩ ⟨rest, (location.afterAll gap).afterAll text⟩ := by
        rw [Cursor.read, Cursor.skipBlanks_append hgap (hlexeme.head_not_blank rest)]
        exact Cursor.readHere_lexeme hlexeme hclosed _
      obtain ⟨last, hending, hlast, hwords⟩ := ih ((location.afterAll gap).afterAll text)
      rw [ofCursor_of_read hread hlexeme.ne_eof]
      refine ⟨last, hending, hlast, ?_⟩
      rw [List.map_cons, hwords, Token.word, String.toList_ofList]

end TokenStream

/-- **Scanning.** The words that a text is written in are the words of its tokens, and behind them comes the
    end token. -/
theorem exists_scan_iff_written {source : String} {words : List Word} :
    (∃ tokens, scan source = .ok tokens ∧ tokens.map Token.word = words ++ [(.eof, [])]) ↔
      Written words source.toList := by
  constructor
  · rintro ⟨tokens, hscan, hwords⟩
    obtain ⟨last, hending, rfl⟩ := scan_eq_ok_iff.mp hscan
    obtain ⟨-, hwritten⟩ := TokenStream.written hending
    rw [List.map_append] at hwords
    obtain ⟨rfl, -⟩ := List.append_inj' hwords rfl
    exact hwritten
  · intro h
    obtain ⟨last, hending, hlast, hwords⟩ := TokenStream.of_written h .origin
    refine ⟨_, scan_eq_ok_iff.mpr ⟨last, hending, rfl⟩, ?_⟩
    rw [List.map_append, List.map_singleton, hlast]
    exact congrArg (· ++ _) hwords

/-- The words of a source that can be scanned are lexemes, but for the end token. -/
theorem lexeme_of_scan {source : String} {tokens : List Token} (h : scan source = .ok tokens) :
    ∀ token ∈ tokens, token.kind ≠ .eof → Lexeme token.kind token.lexeme.toList := by
  obtain ⟨last, hending, rfl⟩ := scan_eq_ok_iff.mp h
  obtain ⟨hlast, hwritten⟩ := TokenStream.written hending
  intro token hmem hinner
  rcases List.mem_append.mp hmem with hmem | hmem
  · exact hwritten.lexeme token.word (List.mem_map_of_mem hmem)
  · rw [List.mem_singleton.mp hmem] at hinner
    exact absurd (congrArg Prod.fst hlast) hinner

end ModuleLang
