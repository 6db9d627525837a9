import ModuleLang.Check
import ModuleLang.Proofs.Parser.Decision
import ModuleLang.Proofs.Parser.RoundTrip
import ModuleLang.Proofs.Token.Layout
import ModuleLang.Proofs.Tree.WellFormed

/-!
# `Proofs.Parser.Layout` — layout has no effect on parsing

Two sources that read as the same are parsed alike. Their tokens stand elsewhere, and the reader queues them in
front of other places, but the parser looks at words only. As layout does not change what a source reads as, it does
not change the outcome either, be it a module, a syntax error or a bad character.

## Contents
- **The words of a source** (`ReadsAs.words_all`): what it reads as, and then the end token or nothing.
- **`SameOutcome`**: the same outcome, up to locations.
- **One lemma for each outcome** (`parse_ok_congr`, `parse_unexpected_of_words`, `parse_lexical_congr`), and all
  together (`sameOutcome_of_readsAs`).
- **`parse_layout`**: no edits of the layout change the outcome, and trimming is one of them.
-/

namespace ModuleLang

open Grammar
open Unicode (isWhiteSpace)

/-! ## The words of a source -/

/-- The word behind those that a text reads as: that of the end token, or none in front of a bad character. -/
def endingWords : Option Char → List Word
  | none => [(.eof, [])]
  | some _ => []

theorem ReadsAs.words_all {words : List Word} {stray : Option Char} {source : String}
    (h : ReadsAs words stray source.toList) :
    (TokenStream.ofSource source).all.map Token.word = words ++ endingWords stray := by
  obtain ⟨hwords, hstray⟩ := h.ofCursor_eq .origin
  change (TokenStream.ofSource source).tokens.map Token.word = words at hwords
  change (TokenStream.ofSource source).stray? = stray at hstray
  cases hending : (TokenStream.ofSource source).ending with
  | ok last =>
      obtain ⟨hlast, -⟩ := TokenStream.written hending
      rw [TokenStream.stray?, hending] at hstray
      rw [TokenStream.all, hending, List.map_append, hwords, List.map_singleton, hlast, ← hstray]
      rfl
  | error failure =>
      rw [TokenStream.stray?, hending] at hstray
      rw [TokenStream.all, hending, ← hstray, endingWords, List.append_nil]
      exact hwords

/-- A source in which no bad character is read can be scanned. -/
theorem ReadsAs.scan {words : List Word} {source : String} (h : ReadsAs words none source.toList) :
    ∃ tokens, scan source = .ok tokens ∧ tokens.map Token.word = words ++ [(.eof, [])] := by
  have hwords := h.words_all
  have hstray : (TokenStream.ofSource source).stray? = none := (h.ofCursor_eq .origin).2
  cases hending : (TokenStream.ofSource source).ending with
  | ok last =>
      refine ⟨_, scan_eq_ok_iff.mpr ⟨last, hending, rfl⟩, ?_⟩
      rwa [TokenStream.all, hending] at hwords
  | error failure =>
      rw [TokenStream.stray?, hending] at hstray
      cases hstray

/-- In a source that can be scanned no bad character is read. -/
theorem readsAs_of_scan {source : String} {tokens : List Token} (h : scan source = .ok tokens) :
    ∃ words, ReadsAs words none source.toList ∧ tokens.map Token.word = words ++ [(.eof, [])] := by
  have hreads : ReadsAs _ _ source.toList := readsAs_ofCursor (.ofSource source)
  have hwords := hreads.words_all
  obtain ⟨last, hending, -⟩ := scan_eq_ok_iff.mp h
  have hstray : (TokenStream.ofCursor (.ofSource source)).stray? = none := by
    rw [TokenStream.stray?, show (TokenStream.ofCursor (.ofSource source)).ending = .ok last from hending]
  rw [hstray] at hreads hwords
  rw [all_of_scan h] at hwords
  exact ⟨_, hreads, hwords⟩

theorem kindsOf_eq_words (tokens : List Token) : kindsOf tokens = (tokens.map Token.word).map Prod.fst := by
  rw [List.map_map]
  rfl

/-- Rows of the same words have the same kinds. -/
theorem kindsOf_congr {tokens tokens' : List Token} (h : tokens'.map Token.word = tokens.map Token.word) :
    kindsOf tokens' = kindsOf tokens := by
  rw [kindsOf_eq_words, kindsOf_eq_words, h]

theorem eraseLocation_congr {tokens tokens' : List Token} (h : tokens'.map Token.word = tokens.map Token.word) :
    tokens'.map Token.eraseLocation = tokens.map Token.eraseLocation := by
  induction tokens generalizing tokens' with
  | nil =>
      rw [List.map_eq_nil_iff.mp h]
  | cons token tokens ih =>
      obtain ⟨token', rest, rfl, hword, hrest⟩ := List.map_eq_cons_iff.mp h
      rw [List.map_cons, List.map_cons, Token.eraseLocation_eq_of_word hword, ih hrest]

/-- **The first fault** of a row depends on its words only. -/
theorem FirstFault.of_words {tokens tokens' before : List Token} {found : Token}
    (h : FirstFault tokens before found) (hwords : tokens'.map Token.word = tokens.map Token.word) :
    ∃ before' found', FirstFault tokens' before' found' ∧ kindsOf before' = kindsOf before ∧
      found'.word = found.word := by
  obtain ⟨more, rfl⟩ := h.begins
  rw [List.map_append] at hwords
  obtain ⟨row, more', rfl, hrow, -⟩ := List.map_eq_append_iff.mp hwords
  rw [List.map_append] at hrow
  obtain ⟨before', last, rfl, hbefore, hlast⟩ := List.map_eq_append_iff.mp hrow
  obtain ⟨found', rest, rfl, hfound, hrest⟩ := List.map_eq_cons_iff.mp hlast
  obtain rfl := List.map_eq_nil_iff.mp hrest
  have hkinds : kindsOf before' = kindsOf before := kindsOf_congr hbefore
  have hkinds' : kindsOf (before' ++ [found']) = kindsOf (before ++ [found]) := kindsOf_congr (by simp [hbefore, hfound])
  refine ⟨before', found', ⟨List.prefix_append _ more', ?_, ?_⟩, hkinds, hfound⟩
  · rw [hkinds]
    exact h.viable
  · rw [hkinds']
    exact h.fault

/-! ## Outcomes up to locations -/

/-- **The same outcome**, up to locations: the same tree, which prints as the same text; or a syntax error about the
    same word, with the same list of expected kinds; or the same bad character. -/
inductive SameOutcome : Except ParseError Module → Except ParseError Module → Prop where
  | accepted {m n : Module} : n.eraseLocations = m.eraseLocations → n.render = m.render →
      SameOutcome (.ok m) (.ok n)
  | unexpected {expected : List TokenKind} {found found' : Token} : found'.kind = found.kind →
      found'.lexeme = found.lexeme →
      SameOutcome (.error (.unexpected expected found)) (.error (.unexpected expected found'))
  | lexical {failure failure' : LexError} : failure'.character = failure.character →
      SameOutcome (.error (.lexical failure)) (.error (.lexical failure'))

section Outcomes

variable {words : List Word} {stray : Option Char} {source source' : String}

/-- A source that can be scanned, and reads as an accepted one, is accepted with the same tree. -/
theorem parse_ok_congr {m : Module} (hreads : ReadsAs words stray source.toList)
    (hreads' : ReadsAs words stray source'.toList) (h : parse source = .ok m) :
    ∃ n, parse source' = .ok n ∧ n.eraseLocations = m.eraseLocations := by
  obtain ⟨tokens, hscan, hcovers⟩ := parse_covers h
  obtain ⟨words', hscanned, hwords⟩ := readsAs_of_scan hscan
  obtain ⟨rfl, rfl⟩ := hreads.unique hscanned
  obtain ⟨tokens', hscan', hwords'⟩ := hreads'.scan
  have hsame : tokens'.map Token.word = tokens.map Token.word := hwords'.trans hwords.symm
  have hsentence : Sentence (kindsOf tokens') := by
    rw [kindsOf_congr hsame]
    exact hcovers.sentence
  obtain ⟨n, hparse⟩ := parse_of_sentence hscan' hsentence
  obtain ⟨tokens'', hscan'', hcovers'⟩ := parse_covers hparse
  cases hscan'.symm.trans hscan''
  refine ⟨n, hparse, hcovers'.eraseLocations.unique ?_⟩
  rw [eraseLocation_congr hsame]
  exact hcovers.eraseLocations

/-- A source with the words of one that has a syntax error has the same one. -/
theorem parse_unexpected_of_words {expected : List TokenKind} {found : Token}
    (hwords : (TokenStream.ofSource source').all.map Token.word = (TokenStream.ofSource source).all.map Token.word)
    (h : parse source = .error (.unexpected expected found)) :
    ∃ found', parse source' = .error (.unexpected expected found') ∧ found'.word = found.word := by
  obtain ⟨before, hfault, hcongr⟩ := parse_unexpected_congr h
  obtain ⟨before', found', hfault', hkinds, hword⟩ := hfault.of_words hwords
  exact ⟨found', hcongr source' before' found' hfault' hkinds, hword⟩

/-- A source that reads as one that is rejected for a bad character is rejected for the same one. -/
theorem parse_lexical_congr {failure : LexError} (hreads : ReadsAs words stray source.toList)
    (hreads' : ReadsAs words stray source'.toList) (h : parse source = .error (.lexical failure)) :
    ∃ failure', parse source' = .error (.lexical failure') ∧ failure'.character = failure.character := by
  rcases parse_verdict h with ⟨_, _, _, _, herror, _⟩ | ⟨failure, hfailure, hending, hviable⟩
  · cases herror
  · cases hfailure
    have hstray : (TokenStream.ofSource source).stray? = stray := (hreads.ofCursor_eq .origin).2
    have hstray' : (TokenStream.ofSource source').stray? = stray := (hreads'.ofCursor_eq .origin).2
    rw [TokenStream.stray?, hending] at hstray
    rw [← hstray, TokenStream.stray?] at hstray'
    -- the other source ends with a bad character too, and its tokens are viable as they have the same words
    cases hending' : (TokenStream.ofSource source').ending with
    | ok last =>
        rw [hending'] at hstray'
        cases hstray'
    | error failure' =>
        rw [hending'] at hstray'
        have hwords := hreads'.words_all.trans hreads.words_all.symm
        refine ⟨failure', parse_of_viable hending' ?_, Option.some.inj hstray'⟩
        rw [kindsOf_congr hwords]
        exact hviable

/-- **Sources that read as the same** are parsed alike. -/
theorem sameOutcome_of_readsAs (hreads : ReadsAs words stray source.toList)
    (hreads' : ReadsAs words stray source'.toList) : SameOutcome (parse source) (parse source') := by
  cases h : parse source with
  | ok m =>
      obtain ⟨n, hparse, herase⟩ := parse_ok_congr hreads hreads' h
      have hrender : n.render = m.render := by
        rw [← Module.render_eraseLocations n, herase, Module.render_eraseLocations]
      rw [hparse]
      exact .accepted herase hrender
  | error error =>
      cases error with
      | lexical failure =>
          obtain ⟨failure', hparse, hcharacter⟩ := parse_lexical_congr hreads hreads' h
          rw [hparse]
          exact .lexical hcharacter
      | unexpected expected found =>
          have hwords := hreads'.words_all.trans hreads.words_all.symm
          obtain ⟨found', hparse, hword⟩ := parse_unexpected_of_words hwords h
          obtain ⟨hkind, hlexeme⟩ := Prod.mk.inj hword
          rw [hparse]
          exact .unexpected hkind (String.toList_inj.mp hlexeme)

end Outcomes

/-! ## Layout -/

/-- Sources that differ in layout only have the same outcome. -/
theorem sameOutcome_of_layoutEdits {source source' : String}
    (hedits : Relation.ReflTransGen LayoutEdit source.toList source'.toList) :
    SameOutcome (parse source) (parse source') := by
  have hreads : ReadsAs _ _ source.toList := readsAs_ofCursor (.ofSource source)
  exact sameOutcome_of_readsAs hreads (hreads.of_layoutEdits hedits)

/-- An accepted source stays accepted, with the same tree. -/
theorem parse_ok_of_layoutEdits {source source' : String} {m : Module} (h : parse source = .ok m)
    (hedits : Relation.ReflTransGen LayoutEdit source.toList source'.toList) :
    ∃ n, parse source' = .ok n ∧ n.eraseLocations = m.eraseLocations := by
  have hreads : ReadsAs _ _ source.toList := readsAs_ofCursor (.ofSource source)
  exact parse_ok_congr hreads (hreads.of_layoutEdits hedits) h

theorem blanks_takeWhile (run : List Char) : Blanks (run.takeWhile isWhiteSpace) := by
  intro c hc
  exact List.all_eq_true.mp List.all_takeWhile c hc

/-- The blanks in front of a text can be removed. -/
theorem layoutEdit_dropWhile (run : List Char) : LayoutEdit run (run.dropWhile isWhiteSpace) := by
  have hedit : LayoutEdit (run.takeWhile isWhiteSpace ++ run.dropWhile isWhiteSpace)
      ([] ++ run.dropWhile isWhiteSpace) := .lead (blanks_takeWhile run) nofun
  rwa [List.takeWhile_append_dropWhile] at hedit

/-- The blanks behind a text can be removed. -/
theorem layoutEdit_dropWhile_reverse (run : List Char) :
    LayoutEdit run (run.reverse.dropWhile isWhiteSpace).reverse := by
  have hgap : Blanks (run.reverse.takeWhile isWhiteSpace).reverse := by
    intro c hc
    exact blanks_takeWhile run.reverse c (List.mem_reverse.mp hc)
  have hedit : LayoutEdit
      ((run.reverse.dropWhile isWhiteSpace).reverse ++ (run.reverse.takeWhile isWhiteSpace).reverse)
      ((run.reverse.dropWhile isWhiteSpace).reverse ++ []) := .trail hgap nofun
  rwa [← List.reverse_append, List.takeWhile_append_dropWhile, List.reverse_reverse, List.append_nil] at hedit

/-- **Trimming** edits the layout at the two ends. -/
theorem trim_layoutEdits (source : String) :
    Relation.ReflTransGen LayoutEdit source.toList (Text.trim source).toList := by
  rw [Text.trim, String.toList_ofList, Text.trimChars]
  have hlead := Relation.ReflTransGen.single (layoutEdit_dropWhile source.toList)
  exact hlead.tail (layoutEdit_dropWhile_reverse _)

/-- A test that expects a module gets the module in the trimmed source, and its text. -/
theorem expectModule_of_ok {source : String} {m : Module} (h : parse (Text.trim source) = .ok m) :
    Check.expectModule source = .ok (m, m.render) := by
  -- the equation of `Check.expectModule` is slow to make, because its body evaluates; its definition is enough
  delta Check.expectModule
  dsimp only
  rw [h]

/-- A test that expects a module gets a report if the trimmed source is rejected. -/
theorem expectModule_of_error {source : String} {error : ParseError}
    (h : parse (Text.trim source) = .error error) :
    ∃ report, Check.expectModule source = .error report := by
  delta Check.expectModule
  dsimp only
  rw [h]
  exact ⟨_, rfl⟩

/-- **A test trims its source**, which makes no difference to whether there is a module in it, and to which. -/
theorem expectModule_verdict (source : String) :
    (∃ m n : Module, parse source = .ok m ∧ Check.expectModule source = .ok (n, m.render) ∧
      n.eraseLocations = m.eraseLocations) ∨
    ∃ error report, parse source = .error error ∧ Check.expectModule source = .error report := by
  have hsame := sameOutcome_of_layoutEdits (trim_layoutEdits source)
  generalize hparse : parse source = outcome at hsame
  generalize htrim : parse (Text.trim source) = trimmed at hsame
  cases hsame with
  | @accepted m n herase hrender =>
      have hexpect := expectModule_of_ok htrim
      rw [hrender] at hexpect
      exact .inl ⟨m, n, rfl, hexpect, herase⟩
  | unexpected _ _ =>
      obtain ⟨report, hreport⟩ := expectModule_of_error htrim
      exact .inr ⟨_, report, rfl, hreport⟩
  | lexical _ =>
      obtain ⟨report, hreport⟩ := expectModule_of_error htrim
      exact .inr ⟨_, report, rfl, hreport⟩

/-- **Layout has no effect on parsing.** Whatever blanks of a source become others, at its ends, next to its marks or
    between its lexemes, it is accepted, or rejected, as before: with the same tree and the same text, the same
    expected kinds and the same found word, or the same bad character. So a test that trims a source gets a report
    if and only if the source itself is rejected, and else the text of the module in it. -/
theorem parse_layout :
    (∀ source source' : String, Relation.ReflTransGen LayoutEdit source.toList source'.toList →
      SameOutcome (parse source) (parse source')) ∧
    ∀ source : String,
      ((∃ report, Check.expectModule source = .error report) ↔ ∃ error, parse source = .error error) ∧
      ∀ m : Module, parse source = .ok m →
        ∃ n : Module, Check.expectModule source = .ok (n, m.render) ∧ n.eraseLocations = m.eraseLocations := by
  refine ⟨fun source source' hedits => sameOutcome_of_layoutEdits hedits, fun source => ?_⟩
  rcases expectModule_verdict source with ⟨m, n, hparse, hexpect, herase⟩ | ⟨error, report, hparse, hexpect⟩
  · rw [hparse, hexpect]
    refine ⟨⟨nofun, nofun⟩, ?_⟩
    rintro _ ⟨⟩
    exact ⟨n, rfl, herase⟩
  · rw [hparse, hexpect]
    exact ⟨⟨fun _ => ⟨error, rfl⟩, fun _ => ⟨report, rfl⟩⟩, nofun⟩

/-- A source that is rejected for its bad character, before and after its words are moved to new lines and apart from
    the operator. And an accepted source that is not trimmed. -/
theorem parse_layout_over_lines :
    Relation.ReflTransGen LayoutEdit "module m\x7bx+ #".toList "\nmodule\n m\x7bx + #".toList ∧
      SameOutcome (parse "module m\x7bx+ #") (parse "\nmodule\n m\x7bx + #") ∧
      ∃ m n : Module, parse "\nmodule m \x7b\n\x7d" = .ok m ∧
        Check.expectModule "\nmodule m \x7b\n\x7d" = .ok (n, m.render) ∧ n.eraseLocations = m.eraseLocations := by
  have hspace : Blanks [' '] := List.forall_mem_singleton.mpr rfl
  have hline : Blanks ['\n'] := List.forall_mem_singleton.mpr rfl
  have hnone : Blanks [] := nofun
  have hindented : Blanks ['\n', ' '] := List.forall_mem_cons.mpr ⟨rfl, hspace⟩
  have hlead (text : List Char) : LayoutEdit text ('\n' :: text) := @LayoutEdit.lead [] ['\n'] text hnone hline
  have hrespace : LayoutEdit "\nmodule m\x7bx+ #".toList "\nmodule\n m\x7bx+ #".toList :=
    @LayoutEdit.respace "\nmodule".toList [' '] ['\n', ' '] "m\x7bx+ #".toList hspace nofun hindented nofun
  have hmark : LayoutEdit "\nmodule\n m\x7bx+ #".toList "\nmodule\n m\x7bx + #".toList :=
    @LayoutEdit.beforeMark "\nmodule\n m\x7bx".toList [] [' '] " #".toList '+' ⟨.plus, rfl⟩ hnone hspace
  have hedits := ((Relation.ReflTransGen.single (hlead "module m\x7bx+ #".toList)).tail hrespace).tail hmark
  refine ⟨hedits, parse_layout.1 _ _ hedits, ?_⟩
  -- the printed form of a tree is accepted, and with a line feed in front of it too
  have hname : Token.IsName ⟨.identifier, "m", .origin⟩ :=
    Token.isName_of_letters rfl (by decide) (by decide) (by decide) .origin
  have hwellFormed : Module.WellFormed ⟨⟨.identifier, "m", .origin⟩, ⟨.empty⟩⟩ := ⟨⟨hname, nofun⟩, rfl⟩
  obtain ⟨printed, hprinted, -⟩ := parse_render hwellFormed
  obtain ⟨m, hparse, -⟩ := @parse_ok_of_layoutEdits "module m \x7b\n\x7d" "\nmodule m \x7b\n\x7d" _ hprinted
    (.single (hlead "module m \x7b\n\x7d".toList))
  obtain ⟨n, hexpect, herase⟩ := (parse_layout.2 _).2 m hparse
  exact ⟨m, n, hparse, hexpect, herase⟩

end ModuleLang
