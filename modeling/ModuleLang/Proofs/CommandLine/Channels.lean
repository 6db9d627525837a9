import ModuleLang.Proofs.CommandLine.Arguments
import ModuleLang.Proofs.CommandLine.Descriptions
import ModuleLang.Proofs.Diagnostic.Caret

/-!
# `Proofs.CommandLine.Channels` — what a run writes, and where

A run that succeeds writes to the standard output only, and one that fails to the standard error only. If it is asked
for, a debug line with a count comes before the result. The count is taken from the tokens or from the list of
statements and not from the text, but it is the number of lines of the result, or that number without the two lines of
the braces: no name and no number has a line feed, so nothing that is printed on a line breaks it.

## Contents
- **Texts without line feeds**, from names and numbers up to statements.
- **Lines of a printed module** (`Module.printedLines`, `Module.WellFormed.lines_render`): the header, one line for
  each statement, and the closing brace.
- **Runs** (`run_eq_process`, `Outcome.Shows`, `Outcome.Reports`): a run that gets its input does what `process` says,
  and what it shows is a result or a report.
- **`run_channels`**: the channels and the counts, for all sources and options.
-/

namespace ModuleLang

open CommandLine

/-! ## Texts without line feeds -/

theorem Token.IsName.newline_not_mem {token : Token} (h : token.IsName) : '\n' ∉ token.lexeme.toList := by
  obtain ⟨-, hlexeme⟩ := isName_iff.mp h
  exact hlexeme.newline_not_mem

theorem Token.IsNumber.newline_not_mem {token : Token} (h : token.IsNumber) : '\n' ∉ token.lexeme.toList := by
  obtain ⟨-, hlexeme⟩ := isNumber_iff.mp h
  exact hlexeme.newline_not_mem

/-- **Expressions** are written on one line. -/
theorem Expr.LeavesFit.newline_not_mem {expr : Expr} (h : expr.LeavesFit) : '\n' ∉ expr.text.toList := by
  induction expr with
  | literal value => exact Token.IsNumber.newline_not_mem h
  | reference variableName => exact Token.IsName.newline_not_mem h
  | operation operator lhs rhs ihLeft ihRight =>
      have hleft := ihLeft h.1
      have hright := ihRight h.2
      have hsymbol : '\n' ∉ operator.symbol.toList := by cases operator <;> decide
      unfold text
      split
      · simp [hleft, hright, hsymbol]
      · simp [hleft, hright, hsymbol]

/-- **Statements** are written on one line. -/
theorem Statement.WellFormed.newline_not_mem {statement : Statement} (h : statement.WellFormed) :
    '\n' ∉ statement.render.toList := by
  cases statement with
  | declaration name =>
      have hname : '\n' ∉ name.lexeme.toList := Token.IsName.newline_not_mem h
      simp [render, hname]
  | assignment name value =>
      obtain ⟨hname, hleaves, -⟩ := h
      simp [render, Expr.render_eq_text, hname.newline_not_mem, hleaves.newline_not_mem]
  | expression value =>
      rw [render, Expr.render_eq_text]
      exact h.1.newline_not_mem

/-! ## Lines of a printed module -/

/-- The line that a statement is printed on. -/
def Statement.printedLine (statement : Statement) : String :=
  Program.indentation 1 ++ statement.render ++ ";"

/-- The lines of a printed module. -/
def Module.printedLines (m : Module) : List String :=
  ("module " ++ m.name ++ " \x7b") :: m.statements.items.map Statement.printedLine ++ ["\x7d"]

/-- Lines in front of a last one each end with a line feed. -/
theorem intercalate_concat (lines : List String) (last : String) :
    "\n".intercalate (lines ++ [last]) = String.join (lines.map (· ++ "\n")) ++ last := by
  induction lines with
  | nil => simp
  | cons line lines ih =>
      rw [List.cons_append, String.intercalate_cons_of_ne_nil (by simp), ih, List.map_cons, String.join_cons]
      simp only [String.append_assoc]

theorem Module.mem_printedLines {m : Module} {line : String} :
    line ∈ m.printedLines ↔
      line = "module " ++ m.name ++ " \x7b" ∨ (∃ statement ∈ m.statements.items, statement.printedLine = line) ∨
        line = "\x7d" := by
  simp [printedLines]

theorem Module.render_eq_lines (m : Module) : m.render = "\n".intercalate m.printedLines := by
  have hstatements : m.statements.items.map (fun statement => statement.printedLine ++ "\n") =
      m.statements.items.map fun statement => Program.indentation 1 ++ statement.render ++ ";\n" := by
    apply List.map_congr_left
    intro statement _
    simp [Statement.printedLine, String.append_assoc]
  rw [printedLines, intercalate_concat, List.map_cons, String.join_cons, List.map_map]
  unfold render Program.renderAt
  rw [show m.program.statements = m.statements from rfl, ← hstatements]
  simp [Function.comp_def, String.append_assoc]

/-- **Each statement has a line**, and so have the header and the closing brace, however the lines are counted. -/
theorem Module.WellFormed.lines_render {m : Module} (h : m.WellFormed) :
    Text.splitLines m.render = m.printedLines ∧ Text.lines m.render = m.printedLines := by
  obtain ⟨⟨hname, hstatements⟩, -⟩ := h
  have hne : m.printedLines ≠ [] := List.cons_ne_nil _ _
  have hnewline : ∀ line ∈ m.printedLines, '\n' ∉ line.toList := by
    intro line hmem
    rcases mem_printedLines.mp hmem with rfl | ⟨statement, hstatement, rfl⟩ | rfl
    · have hidentifier : '\n' ∉ m.name.toList := hname.newline_not_mem
      simp [hidentifier]
    · have hrender : '\n' ∉ statement.render.toList :=
        Statement.WellFormed.newline_not_mem (hstatements statement hstatement)
      simp [Statement.printedLine, Program.indentation, hrender]
    · decide
  have hends : ∀ line ∈ m.printedLines, ∃ c, line.toList.getLast? = some c ∧ c ≠ '\r' := by
    intro line hmem
    rcases mem_printedLines.mp hmem with rfl | ⟨statement, -, rfl⟩ | rfl
    · refine ⟨'\x7b', ?_, by decide⟩
      simp [List.getLast?_cons]
    · refine ⟨';', ?_, by decide⟩
      simp [Statement.printedLine]
    · exact ⟨'\x7d', rfl, by decide⟩
  rw [m.render_eq_lines]
  exact ⟨Text.splitLines_intercalate hne hnewline, Text.lines_intercalate hne hnewline hends⟩

/-- There are two lines more than statements. -/
theorem Module.WellFormed.length_printedLines {m : Module} (h : m.WellFormed) :
    m.printedLines.length = m.statements.length + 2 := by
  obtain ⟨-, hcounted⟩ := h
  have hlength : m.statements.length = m.statements.items.length := hcounted
  rw [hlength]
  simp [printedLines]

/-! ## Runs -/

namespace CommandLine

/-- **A result is shown** on the standard output, with a line feed. If there is to be a debug line, it comes first: the
    level, written in blue, and the summary. -/
def Outcome.Shows (outcome : Outcome) (debug : Bool) (summary result : String) : Prop :=
  outcome.exit = 0 ∧
    outcome.stdout = (if debug then "\x1b[34mDEBUG\x1b[0m " ++ summary ++ "\n" else "") ++ result ++ "\n" ∧
    outcome.stderr = ""

/-- **A failure is reported** on the standard error. -/
def Outcome.Reports (outcome : Outcome) (diagnostic : String) : Prop :=
  outcome.exit = 1 ∧ outcome.stdout = "" ∧ outcome.stderr = diagnostic ++ "\n"

theorem report_shows (options : Options) (summary result : String) :
    (report options summary result).Shows options.debug summary result :=
  ⟨rfl, rfl, rfl⟩

theorem reject_reports (source : String) (error : ParseError) :
    (reject source error).Reports (error.render source) :=
  ⟨rfl, rfl, rfl⟩

section Sources

variable {options : Options} {source : String}

/-- The outcome for a source that has no tokens. -/
theorem process_of_scan_error {error : LexError} (htokens : options.printTokens = true)
    (h : scan source = .error error) : process options source = reject source (.lexical error) := by
  delta process
  rw [if_pos htokens, h]

/-- The outcome for a source without a module. -/
theorem process_of_parse_error {error : ParseError} (htokens : options.printTokens = false)
    (h : parse source = .error error) : process options source = reject source error := by
  delta process
  rw [if_neg (by rw [htokens]; exact Bool.false_ne_true), h]

/-- A run that prints the module succeeds only for an accepted source. -/
theorem exists_parse_of_exit (htokens : options.printTokens = false) (h : (process options source).exit = 0) :
    ∃ m, parse source = .ok m := by
  cases hparse : parse source with
  | ok m => exact ⟨m, rfl⟩
  | error error =>
      rw [process_of_parse_error htokens hparse] at h
      obtain ⟨hexit, -, -⟩ := reject_reports source error
      rw [hexit] at h
      cases h

/-- A run that prints the tokens of an accepted source succeeds. -/
theorem exit_of_parse {m : Module} (htokens : options.printTokens = true) (h : parse source = .ok m) :
    (process options source).exit = 0 := by
  obtain ⟨tokens, hscan, -⟩ := parse_covers h
  rw [process_of_scan htokens hscan]
  rfl

end Sources

section Inputs

variable {arguments : List String} {options : Options} {readInput : String → Id (Except ReadError String)}
  {source : String}

/-- **A run that gets its input** does what is to be done with the source. -/
theorem run_eq_process (hasks : Asks arguments options) (hinput : readInput options.input = .ok source) :
    run readInput arguments = process options source := by
  unfold run
  rw [readArguments_eq_process_iff.mpr hasks]
  show (match readInput options.input with
    | .ok source => process options source
    | .error error => unreadable options.input error) = process options source
  rw [hinput]

/-- **The channels and the counts are consistent**, for every command line that asks for an input to be processed, with
    or without each of the two settings. If a source is scanned or parsed, as the options ask, then the run succeeds: it
    writes nothing to the standard error, and to the standard output the debug line, if asked for, and the result with a
    line feed. The debug line has the number of the lines of the result if tokens are printed, and two less if a module
    is. If the source is rejected, the run fails: it writes nothing to the standard output, and to the standard error the
    diagnostic with a line feed. And where a run that prints the module succeeds, a run that prints the tokens of the same
    input succeeds too. -/
theorem run_channels (hasks : Asks arguments options) (hinput : readInput options.input = .ok source) :
    (options.printTokens = true → ∀ tokens, scan source = .ok tokens →
      ∃ count, (Text.splitLines (Token.describeAll tokens)).length = count ∧
        (Text.lines (Token.describeAll tokens)).length = count ∧
        (run readInput arguments).Shows options.debug ("scanned " ++ toString count ++ " tokens")
          (Token.describeAll tokens)) ∧
    (options.printTokens = false → ∀ m, parse source = .ok m →
      ∃ count, (Text.splitLines m.render).length = count + 2 ∧ (Text.lines m.render).length = count + 2 ∧
        (run readInput arguments).Shows options.debug
          ("parsed module " ++ m.name ++ " with " ++ toString count ++ " statements") m.render) ∧
    (options.printTokens = true → ∀ error, scan source = .error error →
      (run readInput arguments).Reports (ParseError.render source (.lexical error))) ∧
    (options.printTokens = false → ∀ error, parse source = .error error →
      (run readInput arguments).Reports (error.render source)) ∧
    (options.printTokens = false → (run readInput arguments).exit = 0 →
      ∀ arguments' options', Asks arguments' options' → options'.printTokens = true →
        readInput options'.input = .ok source → (run readInput arguments').exit = 0) := by
  rw [run_eq_process hasks hinput]
  refine ⟨?_, ?_, ?_, ?_, ?_⟩
  · intro htokens tokens hscan
    obtain ⟨hsplit, hlines⟩ := lines_describeAll (ne_nil_of_scan hscan) (spelled_of_scan hscan)
    refine ⟨tokens.length, ?_, ?_, ?_⟩
    · rw [hsplit, List.length_map]
    · rw [hlines, List.length_map]
    · rw [process_of_scan htokens hscan]
      apply report_shows
  · intro htokens m hparse
    have hwellFormed : m.WellFormed := parse_wellFormed hparse
    obtain ⟨hsplit, hlines⟩ := hwellFormed.lines_render
    refine ⟨m.statements.length, ?_, ?_, ?_⟩
    · rw [hsplit, hwellFormed.length_printedLines]
    · rw [hlines, hwellFormed.length_printedLines]
    · rw [process_of_parse htokens hparse]
      apply report_shows
  · intro htokens error hscan
    rw [process_of_scan_error htokens hscan]
    apply reject_reports
  · intro htokens error hparse
    rw [process_of_parse_error htokens hparse]
    apply reject_reports
  · intro htokens hexit arguments' options' hasks' htokens' hinput'
    obtain ⟨m, hparse⟩ := exists_parse_of_exit htokens hexit
    rw [run_eq_process hasks' hinput']
    exact exit_of_parse htokens' hparse

end Inputs

/-- One statement in a source of one line is printed on three lines, below a debug line that counts it. The tokens in
    that source are printed too, if both settings are given around the name of the source. -/
theorem run_channels_of_declaration :
    let readInput : String → Id (Except ReadError String) := fun _ => .ok "module m\x7bvar x;\x7d"
    Asks ["--debug"] ⟨"-", false, true⟩ ∧
      (run readInput ["--debug"]).exit = 0 ∧
      (run readInput ["--debug"]).stdout =
        "\x1b[34mDEBUG\x1b[0m parsed module m with 1 statements\nmodule m \x7b\n  var x;\n\x7d\n" ∧
      (run readInput ["--debug"]).stderr = "" ∧
      Asks ["--print-tokens", "m.src", "--debug"] ⟨"m.src", true, true⟩ ∧
      (run readInput ["--print-tokens", "m.src", "--debug"]).exit = 0 := by
  intro readInput
  have hdebug : Asks ["--debug"] ⟨"-", false, true⟩ := readArguments_eq_process_iff.mp (by decide +kernel)
  have htokens : Asks ["--print-tokens", "m.src", "--debug"] ⟨"m.src", true, true⟩ :=
    readArguments_eq_process_iff.mp (by decide +kernel)
  have hprinted : (parse "module m\x7bvar x;\x7d").toOption.map (fun m => (m.name, m.render)) =
      some ("m", "module m \x7b\n  var x;\n\x7d") := by decide +kernel
  obtain ⟨m, hparse⟩ : ∃ m, parse "module m\x7bvar x;\x7d" = .ok m := by
    cases hresult : parse "module m\x7bvar x;\x7d" with
    | ok m => exact ⟨m, rfl⟩
    | error error =>
        rw [hresult] at hprinted
        cases hprinted
  rw [hparse] at hprinted
  obtain ⟨hname, hrender⟩ := Prod.mk.inj (Option.some.inj hprinted)
  obtain ⟨-, hmodule, -, -, hboth⟩ := @run_channels _ _ readInput _ hdebug rfl
  obtain ⟨count, hlength, -, hexit, hstdout, hstderr⟩ := hmodule rfl m hparse
  have hthree : (Text.splitLines m.render).length = 3 := by
    rw [hrender]
    decide +kernel
  have hone : count = 1 := by omega
  rw [hone, hname, hrender] at hstdout
  have hshown : (run readInput ["--debug"]).stdout =
      "\x1b[34mDEBUG\x1b[0m parsed module m with 1 statements\nmodule m \x7b\n  var x;\n\x7d\n" := by
    rw [hstdout]
    decide +kernel
  exact ⟨hdebug, hexit, hshown, hstderr, htokens, hboth rfl hexit _ _ htokens rfl rfl⟩

end CommandLine

end ModuleLang
