import Mathlib.Logic.Relation
import ModuleLang.Language.Lexical
import ModuleLang.Proofs.Token.Position
import ModuleLang.Proofs.Token.Tokenization

/-!
# `Proofs.Token.Layout` — what a text reads as, whatever its layout

A text that cannot be scanned has lexemes too, up to its first bad character. What a text reads as, bad character
included, depends neither on where the text stands nor on its layout.

## Contents
- **`ReadsAs`**: the words that a text begins with, and the bad character behind them, if there is one.
- **Reading** (`readsAs_ofCursor`, `ReadsAs.unique`): a text reads as one thing, and this is what the reader finds.
- **The seam** (`ReadsAs.append_congr`): behind a place where no lexeme runs on, a text may be exchanged for one
  that reads as the same.
- **Layout** (`ReadsAs.of_layoutEdit`, `ReadsAs.of_layoutEdits`): no edit of the layout changes what a text reads
  as, so no number of edits does.
-/

namespace ModuleLang

open Unicode (isWhiteSpace)

/-! ## What a text reads as -/

/-- **A text reads as a row of words**, and then as blanks up to its end, or up to a character that begins no
    lexeme. Behind such a character there may be anything. -/
inductive ReadsAs : List Word → Option Char → List Char → Prop where
  | nil : ReadsAs [] none []
  | blank {words : List Word} {stray : Option Char} {c : Char} {rest : List Char} : isWhiteSpace c = true →
      ReadsAs words stray rest → ReadsAs words stray (c :: rest)
  | stray {c : Char} {rest : List Char} : Stray c → ReadsAs [] (some c) (c :: rest)
  | lexeme {words : List Word} {stray : Option Char} {kind : TokenKind} {text rest : List Char} :
      Lexeme kind text → Closed kind rest → ReadsAs words stray rest →
      ReadsAs ((kind, text) :: words) stray (text ++ rest)

/-- The bad character at the end of a stream, if it ends with one. -/
def TokenStream.stray? (stream : TokenStream) : Option Char :=
  match stream.ending with
  | .ok _ => none
  | .error failure => some failure.character

namespace ReadsAs

variable {words : List Word} {stray : Option Char}

/-- Blanks in front of a text make no difference. -/
theorem blanks {gap text : List Char} (hgap : Blanks gap) (h : ReadsAs words stray text) :
    ReadsAs words stray (gap ++ text) := by
  induction gap with
  | nil => exact h
  | cons c gap ih =>
      obtain ⟨hc, hgap⟩ := List.forall_mem_cons.mp hgap
      exact .blank hc (ih hgap)

/-- A blank in front of a text is skipped, as it neither begins a lexeme nor is bad. -/
theorem of_blank {c : Char} {text : List Char} (hc : isWhiteSpace c = true)
    (h : ReadsAs words stray (c :: text)) : ReadsAs words stray text := by
  generalize hrow : c :: text = row at h
  cases h with
  | nil => cases hrow
  | blank _ hrest =>
      cases hrow
      exact hrest
  | stray hstray =>
      cases hrow
      cases hc.symm.trans hstray.not_blank
  | lexeme hlexeme _ _ =>
      have hhead := hlexeme.head_not_blank _ c (by rw [← hrow]; rfl)
      cases hc.symm.trans hhead

theorem of_blanks {gap text : List Char} (hgap : Blanks gap) (h : ReadsAs words stray (gap ++ text)) :
    ReadsAs words stray text := by
  induction gap with
  | nil => exact h
  | cons c gap ih =>
      obtain ⟨hc, hgap⟩ := List.forall_mem_cons.mp hgap
      exact ih hgap (of_blank hc h)

/-- A mark in front of a text is a lexeme. -/
theorem of_mark {mark : Char} {kind : TokenKind} {text : List Char}
    (hmark : TokenKind.punctuation? mark = some kind) (h : ReadsAs words stray (mark :: text)) :
    ∃ more, words = (kind, [mark]) :: more ∧ ReadsAs more stray text := by
  generalize hrow : mark :: text = row at h
  cases h with
  | nil => cases hrow
  | blank hc _ =>
      cases hrow
      cases hmark.symm.trans (classes_of_blank hc).2.1
  | stray hstray =>
      cases hrow
      cases hmark.symm.trans hstray.not_mark
  | lexeme hlexeme hclosed hrest =>
      obtain ⟨rfl, rfl, rfl⟩ := (lexeme_of_mark hmark).unique hlexeme (closed_of_mark hmark _) hclosed hrow
      exact ⟨_, rfl, hrest⟩

end ReadsAs

/-! ## Reading -/

namespace TokenStream

/-- The first read decides about a stream. -/
theorem ofCursor_congr {first second : Cursor} (h : first.read = second.read) :
    ofCursor first = ofCursor second := by
  cases hread : second.read with
  | error failure here => rw [ofCursor_of_error hread, ofCursor_of_error (h.trans hread)]
  | ok token behind =>
      by_cases hlast : token.kind = .eof
      · rw [ofCursor_of_end hread hlast, ofCursor_of_end (h.trans hread) hlast]
      · rw [ofCursor_of_read hread hlast, ofCursor_of_read (h.trans hread) hlast]

end TokenStream

namespace Cursor

/-- Reading skips a blank. -/
theorem read_blank {c : Char} (hc : isWhiteSpace c = true) (rest : List Char) (location : Location) :
    read ⟨c :: rest, location⟩ = read ⟨rest, location.after c⟩ := by
  rw [read, read, skipBlanks, skipBlanks, take, take, List.dropWhile_cons_of_pos hc,
    List.takeWhile_cons_of_pos hc, Location.afterAll_cons]

/-- Nothing is skipped in front of a character that is not blank. -/
theorem read_of_not_blank {cursor : Cursor} (h : ∀ c ∈ cursor.rest.head?, isWhiteSpace c = false) :
    cursor.read = cursor.readHere := by
  obtain ⟨rest, location⟩ := cursor
  have hskip := @skipBlanks_append [] rest nofun h location
  rw [List.nil_append, Location.afterAll_nil] at hskip
  rw [read, hskip]

theorem readHere_stray {c : Char} (hc : Stray c) (rest : List Char) (location : Location) :
    readHere ⟨c :: rest, location⟩ = .error ⟨c, location⟩ ⟨c :: rest, location⟩ := by
  simp only [readHere, hc.not_mark, hc.not_digit, hc.not_letter, Bool.false_eq_true, if_false]

end Cursor

namespace ReadsAs

variable {words words' : List Word} {stray stray' : Option Char} {text : List Char}

/-- **Reading finds what a text reads as**, wherever the text stands. -/
theorem ofCursor_eq (h : ReadsAs words stray text) (location : Location) :
    (TokenStream.ofCursor ⟨text, location⟩).tokens.map Token.word = words ∧
      (TokenStream.ofCursor ⟨text, location⟩).stray? = stray := by
  induction h generalizing location with
  | nil =>
      have hread : Cursor.read ⟨[], location⟩ = .ok ⟨.eof, "", location⟩ ⟨[], location⟩ := rfl
      rw [TokenStream.ofCursor_of_end hread rfl]
      exact ⟨rfl, rfl⟩
  | @blank _ _ c rest hc _ ih =>
      rw [TokenStream.ofCursor_congr (Cursor.read_blank hc rest location)]
      exact ih (location.after c)
  | @stray c rest hc =>
      have hread := Cursor.readHere_stray hc rest location
      rw [← Cursor.read_of_not_blank] at hread
      · rw [TokenStream.ofCursor_of_error hread]
        exact ⟨rfl, rfl⟩
      · rintro _ ⟨⟩
        exact hc.not_blank
  | @lexeme words stray kind text rest hlexeme hclosed _ ih =>
      have hread := Cursor.readHere_lexeme hlexeme hclosed location
      rw [← Cursor.read_of_not_blank (hlexeme.head_not_blank rest)] at hread
      rw [TokenStream.ofCursor_of_read hread hlexeme.ne_eof]
      obtain ⟨hwords, hstray⟩ := ih (location.afterAll text)
      refine ⟨?_, hstray⟩
      rw [List.map_cons, hwords, Token.word, String.toList_ofList]

/-- **A text reads as one thing.** -/
theorem unique (h : ReadsAs words stray text) (h' : ReadsAs words' stray' text) :
    words = words' ∧ stray = stray' := by
  obtain ⟨hwords, hstray⟩ := h.ofCursor_eq .origin
  obtain ⟨hwords', hstray'⟩ := h'.ofCursor_eq .origin
  exact ⟨hwords.symm.trans hwords', hstray.symm.trans hstray'⟩

end ReadsAs

/-- **Every text reads as something**, which is what the reader finds. -/
theorem readsAs_ofCursor (cursor : Cursor) :
    ReadsAs ((TokenStream.ofCursor cursor).tokens.map Token.word) (TokenStream.ofCursor cursor).stray?
      cursor.rest := by
  fun_induction TokenStream.ofCursor cursor with
  | case1 cursor failure here hread =>
      obtain ⟨gap, hgap, htext, -⟩ := cursor.skipBlanks_eq
      obtain ⟨-, -, hstop⟩ := cursor.take_eq (p := isWhiteSpace)
      obtain ⟨c, rest, hrest, rfl, -, hmark, hdigit, hletter⟩ := Cursor.readHere_error_class hread
      -- the blanks have been skipped, all of them, so the character is not blank
      have hblank : isWhiteSpace c = false :=
        hstop c (by rw [show (cursor.take isWhiteSpace).2.rest = _ from hrest]; rfl)
      rw [htext, hrest]
      exact .blanks hgap (.stray ⟨hblank, hmark, hdigit, hletter⟩)
  | case2 cursor token behind hread hlast =>
      obtain ⟨hblank, -⟩ := TokenStream.blank_of_end hread hlast
      rw [← List.append_nil cursor.rest]
      exact .blanks hblank .nil
  | case3 cursor token behind hread hinner following ih =>
      obtain ⟨gap, hgap, htext, -⟩ := cursor.skipBlanks_eq
      obtain ⟨htext', hlexeme, hclosed, -, -⟩ := Cursor.takes_of_readHere hread hinner
      rw [htext, htext']
      exact .blanks hgap (.lexeme hlexeme hclosed ih)

/-- A text that is written in words reads as them. -/
theorem Written.readsAs {words : List Word} {text : List Char} (h : Written words text) :
    ReadsAs words none text := by
  induction h with
  | @nil gap hgap =>
      rw [← List.append_nil gap]
      exact .blanks hgap .nil
  | cons hgap hlexeme hclosed _ ih => exact .blanks hgap (.lexeme hlexeme hclosed ih)

/-- The words that a text reads as are lexemes. -/
theorem ReadsAs.forall_lexeme {words : List Word} {stray : Option Char} {text : List Char}
    (h : ReadsAs words stray text) : ∀ word ∈ words, Lexeme word.1 word.2 := by
  induction h with
  | nil => exact nofun
  | blank _ _ ih => exact ih
  | stray => exact nofun
  | lexeme hlexeme _ _ ih => exact List.forall_mem_cons.mpr ⟨hlexeme, ih⟩

/-! ## The seam -/

/-- All characters of a lexeme behind the first one are such that the lexeme goes on with them. -/
theorem Lexeme.goesOn_tail {kind : TokenKind} {first : Char} {more : List Char}
    (h : Lexeme kind (first :: more)) : ∀ c ∈ more, kind.goesOn c = true := by
  intro c hmem
  rcases lexeme_iff.mp h with ⟨mark, htext, -⟩ | ⟨rfl, -, hdigits⟩ | ⟨-, hletters, hkind⟩
  · cases htext
    cases hmem
  · exact hdigits c (.tail first hmem)
  · rw [TokenKind.goesOn_of_word (TokenKind.isWord_of_ofWord hkind)]
    exact hletters c (.tail first hmem)

/-- What closes a lexeme is the next character only. -/
theorem Closed.append_congr {kind : TokenKind} {front behind behind' : List Char}
    (h : Closed kind (front ++ behind)) (hbehind' : Closed kind behind') : Closed kind (front ++ behind') := by
  cases front with
  | nil => exact hbehind'
  | cons c front => exact h

/-- **The seam.** No lexeme runs on over a place behind which no lexeme goes on. So what stands behind that place may
    be exchanged for what reads as the same. -/
theorem ReadsAs.append_congr {words : List Word} {stray : Option Char} {front behind behind' : List Char}
    (h : ReadsAs words stray (front ++ behind)) (hbreaks : Breaks behind) (hbreaks' : Breaks behind')
    (hbehind : ∀ words stray, ReadsAs words stray behind → ReadsAs words stray behind') :
    ReadsAs words stray (front ++ behind') := by
  -- on the way in which the text is read, up to the place of the seam
  generalize htext : front ++ behind = text at h
  induction h generalizing front with
  | nil =>
      obtain ⟨rfl, rfl⟩ := List.append_eq_nil_iff.mp htext
      exact hbehind _ _ .nil
  | blank hc hrest ih =>
      rcases List.append_eq_cons_iff.mp htext with ⟨rfl, rfl⟩ | ⟨front, rfl, rfl⟩
      · exact hbehind _ _ (.blank hc hrest)
      · exact .blank hc (ih rfl)
  | stray hc =>
      rcases List.append_eq_cons_iff.mp htext with ⟨rfl, rfl⟩ | ⟨front, rfl, rfl⟩
      · exact hbehind _ _ (.stray hc)
      · exact .stray hc
  | @lexeme words stray kind text rest hlexeme hclosed hrest ih =>
      rcases List.append_eq_append_iff.mp htext with ⟨more, htext', hmore⟩ | ⟨more, hfront, hrest'⟩
      · -- the lexeme ends at the seam or begins there: if it went on over the seam, the text would not break there
        rcases more with _ | ⟨c, more⟩
        · rw [List.append_nil] at htext'
          rw [List.nil_append] at hmore
          subst htext' hmore
          exact .lexeme hlexeme (hbreaks'.closed kind) (hbehind _ _ hrest)
        · rcases front with _ | ⟨first, front⟩
          · rw [List.nil_append] at htext ⊢
            rw [htext] at hbehind
            exact hbehind _ _ (.lexeme hlexeme hclosed hrest)
          · rw [htext'] at hlexeme
            have hgoesOn : kind.goesOn c = true := hlexeme.goesOn_tail c (by simp)
            have hstops : kind.goesOn c = false := hbreaks.closed kind c (by rw [hmore]; rfl)
            cases hgoesOn.symm.trans hstops
      · -- the whole lexeme is in front of the seam
        rw [hrest'] at hclosed
        rw [hfront, List.append_assoc]
        exact .lexeme hlexeme (hclosed.append_congr (hbreaks'.closed kind)) (ih hrest'.symm)

/-! ## Layout -/

namespace ReadsAs

variable {words : List Word} {stray : Option Char} {text text' : List Char}

/-- Blanks at a place where no lexeme goes on may become any others. -/
theorem regap {before gap gap' after : List Char} (hgap : Blanks gap) (hgap' : Blanks gap')
    (hbreaks : Breaks (gap ++ after)) (hbreaks' : Breaks (gap' ++ after))
    (h : ReadsAs words stray (before ++ (gap ++ after))) : ReadsAs words stray (before ++ (gap' ++ after)) := by
  refine h.append_congr hbreaks hbreaks' ?_
  intro words stray hafter
  exact .blanks hgap' (of_blanks hgap hafter)

/-- **No edit of the layout changes what a text reads as.** -/
theorem of_layoutEdit (hedit : LayoutEdit text text') (h : ReadsAs words stray text) :
    ReadsAs words stray text' := by
  cases hedit with
  | @respace before gap gap' after hgap hne hgap' hne' =>
      obtain ⟨c, more, rfl⟩ := List.exists_cons_of_ne_nil hne
      obtain ⟨c', more', rfl⟩ := List.exists_cons_of_ne_nil hne'
      rw [List.append_assoc] at h ⊢
      exact h.regap hgap hgap' (.blank (hgap c List.mem_cons_self) _) (.blank (hgap' c' List.mem_cons_self) _)
  | lead hgap hgap' => exact .blanks hgap' (of_blanks hgap h)
  | @trail text gap gap' hgap hgap' =>
      rw [← List.append_nil gap] at h
      rw [← List.append_nil gap']
      refine h.regap hgap hgap' ?_ ?_
      · rw [List.append_nil]
        exact hgap.breaks
      · rw [List.append_nil]
        exact hgap'.breaks
  | @beforeMark before gap gap' after mark hmark hgap hgap' =>
      obtain ⟨kind, hmark⟩ := hmark
      rw [List.append_assoc] at h ⊢
      exact h.regap hgap hgap' (.blanks hgap (.mark hmark after)) (.blanks hgap' (.mark hmark after))
  | @behindMark before gap gap' after mark hmark hgap hgap' =>
      -- the mark parts the lexemes, and behind it the blanks are at the beginning of a text
      obtain ⟨kind, hmark⟩ := hmark
      refine h.append_congr (.mark hmark _) (.mark hmark _) ?_
      intro words stray hbehind
      obtain ⟨more, rfl, hmore⟩ := hbehind.of_mark hmark
      exact .lexeme (lexeme_of_mark hmark) (closed_of_mark hmark _) (.blanks hgap' (of_blanks hgap hmore))

/-- **No number of edits** of the layout changes what a text reads as. -/
theorem of_layoutEdits (hedits : Relation.ReflTransGen LayoutEdit text text')
    (h : ReadsAs words stray text) : ReadsAs words stray text' := by
  induction hedits with
  | refl => exact h
  | tail _ hedit ih => exact of_layoutEdit hedit ih

end ReadsAs

end ModuleLang
