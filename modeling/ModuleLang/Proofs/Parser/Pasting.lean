import ModuleLang.Proofs.Parser.Verdict
import ModuleLang.Proofs.Token.Continuation
import ModuleLang.Proofs.Token.Layout
import ModuleLang.Proofs.Tree.Relocation

/-!
# `Proofs.Parser.Pasting` — the texts of two modules in one pair of braces

What stands in the braces of a module is a list of statements, each with its semicolon. So two such texts can be pasted
together: no token runs on over the seam, and the statements of the first are followed by those of the second.

## Contents
- **`asModule`**: a text in the braces of a module. If it is accepted, its tokens are those of the head, a row that
  the statements cover, and the closing brace and the end (`Braced`, `braced_of_parse`).
- **The first text** (`Braced.reads_front`): its tokens are read as before, locations included, whatever is pasted
  behind it. Only blanks stand between its last semicolon and the seam.
- **The second text** (`Braced.readsAs_body`): it reads as the words of its statements, wherever it stands.
- **Both** (`Braced.scan_paste`, `parse_paste`): the tokens and the statements of two texts that are pasted together.
-/

namespace ModuleLang

open Unicode (isWhiteSpace)

/-! ## A text in braces -/

/-- The module `m` with a text in its braces. -/
def asModule (body : String) : String :=
  "module m \x7b" ++ body ++ "\x7d"

theorem toList_asModule (body : String) :
    (asModule body).toList = "module m \x7b".toList ++ (body.toList ++ ['\x7d']) := by
  rw [asModule, String.toList_append, String.toList_append, List.append_assoc]
  rfl

/-- The words in front of the text. -/
def headWords : List Word :=
  [(.moduleKeyword, ['m', 'o', 'd', 'u', 'l', 'e']), (.identifier, ['m']), (.leftBrace, ['\x7b'])]

/-- **The tokens of an accepted module**: its head, a row that its statements cover, and the two tokens behind it. -/
structure Braced (body : String) (m : Module) (word opening : Token) (row : List Token) (closing last : Token) :
    Prop where
  /-- These are all tokens of the source. -/
  scan_eq : scan (asModule body) = .ok (word :: m.identifier :: opening :: (row ++ [closing, last]))
  /-- The first token is the keyword. -/
  word_kind : word.kind = .moduleKeyword
  /-- The second token is the name. -/
  name_kind : m.identifier.kind = .identifier
  /-- The third token opens the braces. -/
  opening_kind : opening.kind = .leftBrace
  /-- The statements cover what stands in the braces. -/
  covers : CoversAll m.statements.items row
  /-- The statements are counted right. -/
  counted : m.statements.Counted
  /-- A brace follows the statements. -/
  closing_kind : closing.kind = .rightBrace

theorem braced_of_parse {body : String} {m : Module} (h : parse (asModule body) = .ok m) :
    ∃ word opening row closing last, Braced body m word opening row closing last := by
  obtain ⟨tokens, hscan, hcovers⟩ := parse_covers h
  cases hcovers with
  | @ofBody word _ opening closing last statements row hword hname hopening hrow hcounted hclosing _ =>
      exact ⟨word, opening, row, closing, last, hscan, hword, hname, hopening, hrow, hcounted, hclosing⟩

/-- A text with a word in it is not empty. -/
theorem Written.ne_nil {word : Word} {words : List Word} {text : List Char} (h : Written (word :: words) text) :
    text ≠ [] := by
  cases h with
  | cons _ hlexeme _ _ =>
      intro hnil
      obtain ⟨-, hbehind⟩ := List.append_eq_nil_iff.mp hnil
      obtain ⟨htext, -⟩ := List.append_eq_nil_iff.mp hbehind
      exact hlexeme.ne_nil htext

/-- Only blanks stand in front of a closing brace that is all there is. -/
theorem Written.blanks_of_closing {text front : List Char}
    (h : Written [(.rightBrace, text)] (front ++ ['\x7d'])) : Blanks front := by
  generalize hrow : front ++ ['\x7d'] = row at h
  cases h with
  | @cons gap _ rest _ _ hgap hlexeme _ hrest =>
      have htext : text = ['\x7d'] := hlexeme.eq_spelling rfl
      have hblanks : Blanks rest := by
        cases hrest with
        | nil hrest => exact hrest
      rcases rest.eq_nil_or_concat with rfl | ⟨more, c, rfl⟩
      · -- the brace is the last character, and what stands in front of it is blank
        rw [htext, List.append_nil] at hrow
        obtain ⟨rfl, -⟩ := List.append_singleton_inj.mp hrow
        exact hgap
      · -- the last character would be blank, and it is the brace
        rw [List.concat_eq_append] at hrow hblanks
        rw [← List.append_assoc, ← List.append_assoc] at hrow
        obtain ⟨-, rfl⟩ := List.append_singleton_inj.mp hrow
        have hblank := hblanks '\x7d' (by simp)
        cases hblank

namespace Braced

variable {body : String} {m : Module} {word opening closing last : Token} {row : List Token}

/-- The tokens in front of the end token. -/
theorem tokens_eq (h : Braced body m word opening row closing last) :
    (TokenStream.ofSource (asModule body)).tokens = (word :: m.identifier :: opening :: row) ++ [closing] ∧
      (TokenStream.ofSource (asModule body)).ending = .ok last := by
  obtain ⟨final, hending, htokens⟩ := scan_eq_ok_iff.mp h.scan_eq
  have hrow : (word :: m.identifier :: opening :: row) ++ [closing] ++ [last] =
      (TokenStream.ofSource (asModule body)).tokens ++ [final] := by
    rw [← htokens]
    simp
  obtain ⟨hinner, rfl⟩ := List.append_singleton_inj.mp hrow
  exact ⟨hinner.symm, hending⟩

/-! ## The first text -/

/-- The last token in front of the closing brace is a mark, so no text goes on with it. -/
theorem closed_front (h : Braced body m word opening row closing last) (rest : List Char) :
    ∀ final ∈ (word :: m.identifier :: opening :: row).getLast?, Closed final.kind rest := by
  have hmark (final : Token) (hkind : final.kind = .leftBrace ∨ final.kind = .semicolon) :
      Closed final.kind rest := by
    intro c _
    rcases hkind with hkind | hkind
    · rw [hkind]
      rfl
    · rw [hkind]
      rfl
  intro final hfinal
  apply hmark
  rcases h.covers.ends with rfl | ⟨before, mark, rfl, hsemicolon⟩
  · cases hfinal
    exact .inl h.opening_kind
  · have hlast : (word :: m.identifier :: opening :: (before ++ [mark])).getLast? = some mark := by
      rw [← List.cons_append, ← List.cons_append, ← List.cons_append, List.getLast?_concat]
    rw [hlast] at hfinal
    cases hfinal
    exact .inr hsemicolon

/-- Reading comes to blanks in front of the closing brace. -/
theorem reads_statements (h : Braced body m word opening row closing last) :
    ∃ passed gap location, Blanks gap ∧ "module m \x7b".toList ++ body.toList = passed ++ gap ∧
      (Cursor.ofSource (asModule body)).Reads (word :: m.identifier :: opening :: row)
        ⟨gap ++ ['\x7d'], location⟩ := by
  obtain ⟨htokens, hending⟩ := h.tokens_eq
  obtain ⟨⟨rest, location⟩, hreads⟩ := Cursor.reads_of_tokens htokens
  have hstream : TokenStream.ofSource (asModule body) = _ := hreads.ofCursor_eq
  rw [hstream] at htokens hending
  have hrest := List.append_cancel_left htokens
  -- only the closing brace is left, and the text ends with it
  obtain ⟨-, hwritten⟩ := TokenStream.written hending
  rw [hrest, List.map_singleton, Token.word, h.closing_kind] at hwritten
  obtain ⟨passed, hpassed, -⟩ := hreads.reaches
  change (asModule body).toList = passed ++ rest at hpassed
  rw [toList_asModule, ← List.append_assoc] at hpassed
  rcases rest.eq_nil_or_concat with rfl | ⟨gap, c, rfl⟩
  · exact absurd rfl hwritten.ne_nil
  · rw [List.concat_eq_append] at hpassed hwritten hreads
    rw [← List.append_assoc] at hpassed
    obtain ⟨hfront, rfl⟩ := List.append_singleton_inj.mp hpassed
    exact ⟨passed, gap, location, hwritten.blanks_of_closing, hfront, hreads⟩

/-- **The first text is read as before**, whatever is pasted behind it. -/
theorem reads_front (h : Braced body m word opening row closing last) :
    ∃ gap location, Blanks gap ∧ ∀ more : String,
      (Cursor.ofSource (asModule (body ++ more))).Reads (word :: m.identifier :: opening :: row)
        ⟨gap ++ (more.toList ++ ['\x7d']), location⟩ := by
  obtain ⟨passed, gap, location, hgap, hfront, hreads⟩ := h.reads_statements
  refine ⟨gap, location, hgap, fun more => ?_⟩
  have hsource : (Cursor.ofSource (asModule body)).rest = passed ++ (gap ++ ['\x7d']) := by
    change (asModule body).toList = _
    rw [toList_asModule, ← List.append_assoc, hfront, List.append_assoc]
  have hpasted : Cursor.ofSource (asModule (body ++ more)) =
      ⟨passed ++ (gap ++ (more.toList ++ ['\x7d'])), .origin⟩ := by
    rw [Cursor.ofSource, toList_asModule, String.toList_append, List.append_assoc, ← List.append_assoc, hfront,
      List.append_assoc]
  have hchanged := hreads.change hsource (h.closed_front (gap ++ (more.toList ++ ['\x7d'])))
  rw [hpasted]
  exact hchanged

/-! ## The second text -/

/-- A text in braces reads as the head of the module and what is in the braces. -/
theorem readsAs_asModule {words : List Word} {stray : Option Char} {text : List Char}
    (h : ReadsAs words stray text) :
    ReadsAs (headWords ++ words) stray ("module m \x7b".toList ++ text) := by
  have hopening : ReadsAs ((.leftBrace, ['\x7b']) :: words) stray ('\x7b' :: text) :=
    .lexeme .leftBrace (closed_of_mark (c := '\x7b') rfl text) h
  have hletter : ∀ c ∈ ['m'], isWordCharacter c = true := List.all_eq_true.mp rfl
  have hname := ReadsAs.lexeme (.word (List.cons_ne_nil _ _) hletter rfl) (Breaks.closed (.blank rfl _) .identifier)
    (.blank (c := ' ') rfl hopening)
  have hletters : ∀ c ∈ ['m', 'o', 'd', 'u', 'l', 'e'], isWordCharacter c = true := List.all_eq_true.mp rfl
  exact .lexeme (.word (List.cons_ne_nil _ _) hletters rfl) (Breaks.closed (.blank rfl _) .moduleKeyword)
    (.blank (c := ' ') rfl hname)

/-- **The second text reads as the words of its statements**, and the closing brace. -/
theorem readsAs_body (h : Braced body m word opening row closing last) :
    ReadsAs (row.map Token.word ++ [closing.word]) none (body.toList ++ ['\x7d']) := by
  have hbody := readsAs_ofCursor ⟨body.toList ++ ['\x7d'], .origin⟩
  have hsource := readsAs_asModule hbody
  rw [← toList_asModule] at hsource
  -- the whole source reads as the words of its tokens
  obtain ⟨htokens, hending⟩ := h.tokens_eq
  have hreads : ReadsAs _ _ (asModule body).toList := readsAs_ofCursor (.ofSource (asModule body))
  obtain ⟨hwords, hstray⟩ := hsource.unique hreads
  have hnone : (TokenStream.ofCursor (.ofSource (asModule body))).stray? = none := by
    rw [TokenStream.stray?, show (TokenStream.ofCursor (.ofSource (asModule body))).ending = .ok last from hending]
  rw [show (TokenStream.ofCursor (.ofSource (asModule body))).tokens = _ from htokens] at hwords
  rw [hstray, hnone] at hbody
  have hfront : headWords ++ (TokenStream.ofCursor ⟨body.toList ++ ['\x7d'], .origin⟩).tokens.map Token.word =
      [word.word, m.identifier.word, opening.word] ++ (row.map Token.word ++ [closing.word]) := by
    rw [hwords]
    simp
  obtain ⟨-, hrow⟩ := List.append_inj hfront rfl
  rw [hrow] at hbody
  exact hbody

/-! ## Both texts -/

/-- **The tokens of the pasted text**: those of the first text, and behind them tokens with the words of the second. -/
theorem scan_paste {more : String} {n : Module} {word' opening' closing' last' : Token} {row' : List Token}
    (h : Braced body m word opening row closing last) (h' : Braced more n word' opening' row' closing' last') :
    ∃ moved closing last, moved.map Token.word = row'.map Token.word ∧ closing.kind = .rightBrace ∧
      last.kind = .eof ∧
      scan (asModule (body ++ more)) = .ok (word :: m.identifier :: opening :: (row ++ moved ++ [closing, last])) := by
  obtain ⟨gap, location, hgap, hfront⟩ := h.reads_front
  have hstream : TokenStream.ofSource (asModule (body ++ more)) = _ := (hfront more).ofCursor_eq
  have hproper := TokenStream.proper_ofCursor ⟨gap ++ (more.toList ++ ['\x7d']), location⟩
  -- behind the first text there are tokens with the words of the second, and no failure
  obtain ⟨hwords, hstray⟩ := (ReadsAs.blanks hgap h'.readsAs_body).ofCursor_eq location
  generalize TokenStream.ofCursor ⟨gap ++ (more.toList ++ ['\x7d']), location⟩ = behind
    at hwords hstray hstream hproper
  obtain ⟨moved, brace, hbehind, hmoved, hbrace⟩ := List.map_eq_append_iff.mp hwords
  obtain ⟨closing, rfl, hclosing⟩ := List.map_eq_singleton_iff.mp hbrace
  cases hending : behind.ending with
  | error failure =>
      rw [TokenStream.stray?, hending] at hstray
      cases hstray
  | ok last =>
      refine ⟨moved, closing, last, hmoved, ?_, hproper.last last hending, ?_⟩
      · rw [Token.kind_eq_of_word hclosing]
        exact h'.closing_kind
      · refine scan_eq_ok_iff.mpr ⟨last, ?_, ?_⟩
        · rw [hstream, hending]
        · rw [hstream, hbehind]
          simp

end Braced

/-! ## Pasting -/

/-- **Texts are pasted together.** If two texts are accepted in the braces of a module, then so is the first with the
    second behind it. It has the statements of the first, locations included, and behind them those of the second,
    up to locations, and as many as both together. -/
theorem parse_paste {A B : String} {a b : Module} (ha : parse (asModule A) = .ok a)
    (hb : parse (asModule B) = .ok b) :
    ∃ (c : Module) (later : List Statement), parse (asModule (A ++ B)) = .ok c ∧
      c.identifier = a.identifier ∧ c.statements.items = a.statements.items ++ later ∧
      later.map Statement.eraseLocations = b.statements.items.map Statement.eraseLocations ∧
      c.statements.length = a.statements.length + b.statements.length := by
  obtain ⟨word, opening, row, _, _, hA⟩ := braced_of_parse ha
  obtain ⟨_, _, row', _, _, hB⟩ := braced_of_parse hb
  obtain ⟨moved, closing, last, hmoved, hclosing, hlast, hscan⟩ := hA.scan_paste hB
  obtain ⟨later, hlater, herase⟩ := hB.covers.relocate hmoved
  -- the statements of both cover the pasted row
  have hitems := Statements.items_ofList (a.statements.items ++ later)
  have hcounted := Statements.counted_ofList (a.statements.items ++ later)
  have hbody : CoversAll (Statements.ofList (a.statements.items ++ later)).items (row ++ moved) := by
    rw [hitems]
    exact hA.covers.append hlater
  have hcovers : Module.Covers ⟨a.identifier, ⟨.ofList (a.statements.items ++ later)⟩⟩ _ :=
    .ofBody hA.word_kind hA.name_kind hA.opening_kind hbody hcounted hclosing hlast
  refine ⟨_, later, parse_of_covers hscan hcovers, rfl, hitems, herase, ?_⟩
  have hlength : later.length = b.statements.items.length := by
    simpa using congrArg List.length herase
  have hsum : (Statements.ofList (a.statements.items ++ later)).length = _ := hcounted
  rw [hitems, List.length_append, hlength, ← hA.counted, ← hB.counted] at hsum
  exact hsum

/-- One statement, and two more on the next line. -/
theorem parse_paste_over_lines :
    ∃ a b c, parse (asModule "x;") = .ok a ∧ parse (asModule "\n y = 1-x;var z; ") = .ok b ∧
      parse (asModule "x;\n y = 1-x;var z; ") = .ok c ∧ c.statements.length = 3 := by
  have hsome (source : String) (count : Nat)
      (h : (parse source).toOption.map (fun m => m.statements.length) = some count) :
      ∃ m, parse source = .ok m ∧ m.statements.length = count := by
    cases hparse : parse source with
    | error error =>
        rw [hparse] at h
        cases h
    | ok m =>
        rw [hparse] at h
        exact ⟨m, rfl, Option.some.inj h⟩
  obtain ⟨a, ha, hone⟩ := hsome (asModule "x;") 1 (by decide +kernel)
  obtain ⟨b, hb, htwo⟩ := hsome (asModule "\n y = 1-x;var z; ") 2 (by decide +kernel)
  obtain ⟨c, later, hc, -, -, -, hlength⟩ := parse_paste ha hb
  refine ⟨a, b, c, ha, hb, hc, ?_⟩
  rw [hlength, hone, htwo]

end ModuleLang
