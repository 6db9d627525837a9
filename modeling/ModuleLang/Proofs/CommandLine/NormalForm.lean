import ModuleLang.CommandLine.Run
import ModuleLang.Proofs.Parser.Layout

/-!
# `Proofs.CommandLine.NormalForm` — the printed form is a normal form

Of all sources with the same tokens one is the printed form. Printing adds, drops, joins and parts no token, and
keeps nothing of the layout. So a program that reads its own output prints it again, and prints the same tokens as
for the source.

## Contents
- **`scanWords`**: the kinds and lexemes of a source, which are what the source reads as (`scanWords_of_readsAs`).
- **Printing keeps the words** (`readsAs_render`), and **what is shown depends on the words only**
  (`process_of_readsAs`).
- **`render_normal_form`**: accepted sources are printed alike if and only if they have the same words.
-/

namespace ModuleLang

open CommandLine

/-! ## Words -/

/-- The kinds and lexemes that a source scans to. -/
def scanWords (source : String) : Except LexError (List Word) :=
  (scan source).map fun tokens => tokens.map Token.word

theorem scanWords_of_scan {source : String} {tokens : List Token} (h : scan source = .ok tokens) :
    scanWords source = .ok (tokens.map Token.word) := by
  rw [scanWords, h]
  rfl

/-- What a source scans to is what it reads as, with the end token behind it. -/
theorem scanWords_of_readsAs {words : List Word} {source : String} (h : ReadsAs words none source.toList) :
    scanWords source = .ok (words ++ [(.eof, [])]) := by
  obtain ⟨tokens, hscan, hwords⟩ := h.scan
  rw [scanWords_of_scan hscan, hwords]

/-- The tokens of a source are spelled. -/
theorem spelled_of_scan {source : String} {tokens : List Token} (h : scan source = .ok tokens) :
    ∀ token ∈ tokens, token.Spelled := by
  obtain ⟨words, hreads, hwords⟩ := readsAs_of_scan h
  intro token hmem
  have hword : token.word ∈ words ++ [(.eof, [])] := by
    rw [← hwords]
    exact List.mem_map_of_mem hmem
  rcases List.mem_append.mp hword with hinner | hlast
  · exact .inl (hreads.forall_lexeme token.word hinner)
  · exact .inr (List.mem_singleton.mp hlast)

/-- **Printing keeps the words.** An accepted source and its printed form read as the same. -/
theorem readsAs_render {source : String} {m : Module} (h : parse source = .ok m) :
    ∃ words, ReadsAs words none source.toList ∧ ReadsAs words none m.render.toList := by
  obtain ⟨tokens, hscan, hcovers⟩ := parse_covers h
  obtain ⟨words, hreads, hwords⟩ := readsAs_of_scan hscan
  obtain ⟨printed, hyield, hwritten⟩ := written_render (parse_wellFormed h)
  -- both rows of words are the yield of the tree
  have hsame : words ++ [(.eof, [])] = printed ++ [(.eof, [])] := by
    rw [← hwords, ← hyield]
    exact hcovers.words_eq (spelled_of_scan hscan)
  have hprinted : words = printed := List.append_cancel_right hsame
  refine ⟨words, hreads, ?_⟩
  rw [hprinted]
  exact hwritten.readsAs

/-! ## What is shown -/

/-- Descriptions leave out where a token stands. -/
theorem describeAll_eraseLocation (tokens : List Token) :
    Token.describeAll (tokens.map Token.eraseLocation) = Token.describeAll tokens := by
  rw [Token.describeAll, Token.describeAll, List.map_map]
  rfl

namespace CommandLine

/-- The outcome for the tokens of a source. -/
theorem process_of_scan {options : Options} {source : String} {tokens : List Token}
    (htokens : options.printTokens = true) (h : scan source = .ok tokens) :
    process options source =
      report options ("scanned " ++ toString tokens.length ++ " tokens") (Token.describeAll tokens) := by
  delta process
  rw [if_pos htokens, h]

/-- The outcome for the module in a source. -/
theorem process_of_parse {options : Options} {source : String} {m : Module}
    (htokens : options.printTokens = false) (h : parse source = .ok m) :
    process options source = report options
      ("parsed module " ++ m.name ++ " with " ++ toString m.statements.length ++ " statements") m.render := by
  delta process
  rw [if_neg (by rw [htokens]; exact Bool.false_ne_true), h]

/-- **What is shown for an accepted source** depends on its words only, whatever is asked for. -/
theorem process_of_readsAs {words : List Word} {source source' : String} {m : Module}
    (hreads : ReadsAs words none source.toList) (hreads' : ReadsAs words none source'.toList)
    (h : parse source = .ok m) (options : Options) : process options source' = process options source := by
  cases htokens : options.printTokens with
  | true =>
      obtain ⟨tokens, hscan, hwords⟩ := hreads.scan
      obtain ⟨tokens', hscan', hwords'⟩ := hreads'.scan
      have hsame := eraseLocation_congr (hwords'.trans hwords.symm)
      have hlength : tokens'.length = tokens.length := by
        rw [← List.length_map Token.eraseLocation, hsame, List.length_map]
      have hdescribe : Token.describeAll tokens' = Token.describeAll tokens := by
        rw [← describeAll_eraseLocation, hsame, describeAll_eraseLocation]
      rw [process_of_scan htokens hscan, process_of_scan htokens hscan', hlength, hdescribe]
  | false =>
      obtain ⟨n, hparse, herase⟩ := parse_ok_congr hreads hreads' h
      have hname : n.name = m.name := by
        show n.eraseLocations.name = m.eraseLocations.name
        rw [herase]
      have hlength : n.statements.length = m.statements.length := by
        show n.eraseLocations.statements.length = m.eraseLocations.statements.length
        rw [herase]
      have hrender : n.render = m.render := by
        rw [← Module.render_eraseLocations n, herase, Module.render_eraseLocations]
      rw [process_of_parse htokens h, process_of_parse htokens hparse, hname, hlength, hrender]

end CommandLine

/-! ## The normal form -/

/-- Equal words of accepted sources, and equal printed forms. -/
theorem render_eq_iff {source other : String} {m n : Module} (h : parse source = .ok m)
    (h' : parse other = .ok n) : m.render = n.render ↔ scanWords source = scanWords other := by
  obtain ⟨words, hreads, hprinted⟩ := readsAs_render h
  obtain ⟨words', hreads', hprinted'⟩ := readsAs_render h'
  rw [scanWords_of_readsAs hreads, scanWords_of_readsAs hreads']
  constructor
  · intro hrender
    rw [hrender] at hprinted
    rw [(hprinted.unique hprinted').1]
  · intro hwords
    have hsame : words = words' := List.append_cancel_right (Except.ok.inj hwords)
    subst hsame
    have houtcome := sameOutcome_of_readsAs hreads hreads'
    rw [h, h'] at houtcome
    cases houtcome with
    | accepted _ hrender => exact hrender.symm

/-- **The printed form is a normal form.** An accepted source has the words of its printed form, which is what the
    program shows for it. For its own output the program shows what it shows for the source, be it the module or the
    tokens, with a debug line or without. And two accepted sources are printed alike if and only if they have the
    same words. -/
theorem render_normal_form {source : String} {m : Module} (h : parse source = .ok m) :
    (∃ words, scanWords source = .ok words ∧ scanWords m.render = .ok words) ∧
    (∀ input, process ⟨input, false, false⟩ source = .success (m.render ++ "\n")) ∧
    (∀ options, process options (m.render ++ "\n") = process options source) ∧
    ∀ (other : String) (n : Module), parse other = .ok n →
      (m.render = n.render ↔ scanWords source = scanWords other) := by
  obtain ⟨words, hreads, hprinted⟩ := readsAs_render h
  refine ⟨⟨_, scanWords_of_readsAs hreads, scanWords_of_readsAs hprinted⟩, fun input => ?_, fun options => ?_,
    fun other n h' => render_eq_iff h h'⟩
  · rw [process_of_parse rfl h, report, if_neg Bool.false_ne_true, String.empty_append]
  · -- the line feed at the end is layout
    have hline : LayoutEdit m.render.toList (m.render ++ "\n").toList := by
      have hedit : LayoutEdit (m.render.toList ++ []) (m.render.toList ++ ['\n']) :=
        .trail nofun (List.forall_mem_singleton.mpr rfl)
      rwa [List.append_nil, show ['\n'] = "\n".toList from rfl, ← String.toList_append] at hedit
    exact process_of_readsAs hreads (hprinted.of_layoutEdit hline) h options

/-- A module on one line, and its printed form on three. -/
theorem render_normal_form_one_line :
    let printed := "module m \x7b\n  x = y - 1;\n\x7d"
    ∃ m, parse "module m\x7bx = y - 1;\x7d" = .ok m ∧ m.render = printed ∧
      process ⟨"-", true, true⟩ (printed ++ "\n") = process ⟨"-", true, true⟩ "module m\x7bx = y - 1;\x7d" ∧
      scanWords "module m\x7bx = y - 1;\x7d" = scanWords printed := by
  intro printed
  have hm : Token.IsName ⟨.identifier, "m", .origin⟩ :=
    Token.isName_of_letters rfl (by decide) (by decide) (by decide) _
  have hx : Token.IsName ⟨.identifier, "x", .origin⟩ :=
    Token.isName_of_letters rfl (by decide) (by decide) (by decide) _
  have hy : Token.IsName ⟨.identifier, "y", .origin⟩ :=
    Token.isName_of_letters rfl (by decide) (by decide) (by decide) _
  have hone : Token.IsNumber ⟨.number, "1", .origin⟩ := Token.isNumber_of_digits rfl (by decide) _
  let value : Expr := .operation .sub (.reference ⟨.identifier, "y", .origin⟩) (.literal ⟨.number, "1", .origin⟩)
  let built : Module := ⟨⟨.identifier, "m", .origin⟩, ⟨.ofList [.assignment ⟨.identifier, "x", .origin⟩ value]⟩⟩
  have hwellFormed : built.WellFormed :=
    ⟨⟨hm, List.forall_mem_singleton.mpr ⟨hx, ⟨hy, hone⟩, trivial, rfl⟩⟩, rfl⟩
  have hbuilt : built.render = printed := by decide +kernel
  obtain ⟨n, hprinted, hn⟩ := parse_render hwellFormed
  rw [hbuilt] at hprinted
  -- the source is the printed form without the blanks next to two marks
  have hspace : Blanks [' '] := List.forall_mem_singleton.mpr rfl
  have hline : Blanks ['\n'] := List.forall_mem_singleton.mpr rfl
  have hindented : Blanks ['\n', ' ', ' '] := by
    simp only [Blanks, List.forall_mem_cons]
    exact ⟨rfl, rfl, rfl, nofun⟩
  have hbrace : LayoutEdit "module m \x7b\n  x = y - 1;\n\x7d".toList "module m\x7b\n  x = y - 1;\n\x7d".toList :=
    @LayoutEdit.beforeMark "module m".toList [' '] [] "\n  x = y - 1;\n\x7d".toList '\x7b' ⟨.leftBrace, rfl⟩ hspace nofun
  have hstatement : LayoutEdit "module m\x7b\n  x = y - 1;\n\x7d".toList "module m\x7bx = y - 1;\n\x7d".toList :=
    @LayoutEdit.behindMark "module m".toList ['\n', ' ', ' '] [] "x = y - 1;\n\x7d".toList '\x7b' ⟨.leftBrace, rfl⟩
      hindented nofun
  have hclosing : LayoutEdit "module m\x7bx = y - 1;\n\x7d".toList "module m\x7bx = y - 1;\x7d".toList :=
    @LayoutEdit.behindMark "module m\x7bx = y - 1".toList ['\n'] [] "\x7d".toList ';' ⟨.semicolon, rfl⟩ hline nofun
  have hedits := ((Relation.ReflTransGen.single hbrace).tail hstatement).tail hclosing
  obtain ⟨m, hparse, herase⟩ := @parse_ok_of_layoutEdits printed _ n hprinted hedits
  have hrender (parsed : Module) (h : parsed.eraseLocations = built.eraseLocations) : parsed.render = printed := by
    rw [← Module.render_eraseLocations parsed, h, Module.render_eraseLocations, hbuilt]
  have hmrender : m.render = printed := hrender m (herase.trans hn)
  obtain ⟨-, -, hprocess, hsame⟩ := render_normal_form hparse
  rw [hmrender] at hprocess
  refine ⟨m, hparse, hmrender, hprocess _, (hsame printed n hprinted).mp ?_⟩
  rw [hmrender, hrender n hn]

end ModuleLang
