import ModuleLang.Proofs.Parser.Reported
import ModuleLang.Proofs.Parser.Verdict
import ModuleLang.Proofs.Token.FirstStray

/-!
# `Proofs.Parser.Agreement` — all ways to a bad character agree

A source can be scanned as a whole, read token by token with any looks ahead, or parsed, and each of these may fail
again and again. They reach the bad character through different queues, but each of them only shows the row of the
source, which has one failure at most.

## Contents
- **Rows and scans** (`scan_of_row`): a failure in the row of a source is the failure of its scan.
- **Sessions** (`Interface.Honest.scan_of_reports`): so is a failure that an honest interface reports.
- **Parsing** (`parse_of_scan_error`): a source that cannot be scanned is rejected, for that failure or for a token
  in front of it.
- **`strays_agree`**: all failures on a source are about its first stray character.
-/

namespace ModuleLang

/-! ## Rows and scans -/

/-- A failure in the row of a source is the failure of its scan. -/
theorem scan_of_row {source : String} {failure : LexError} {n : Nat}
    (h : (Cursor.ofSource source).row n = .error failure) : scan source = .error failure := by
  rw [Cursor.row_eq_nth] at h
  rcases (TokenStream.ofCursor (.ofSource source)).nth_cases n with ⟨token, -, hnth⟩ | ⟨found, hending, hnth⟩
  · cases hnth.symm.trans h
  · cases hnth.symm.trans h
    exact scan_eq_error_iff.mpr hending

/-! ## Sessions -/

/-- **A failure that is reported in a session** is the failure of the scan, whatever was requested before it. -/
theorem Interface.Honest.scan_of_reports {ε ρ α : Type} {face : Interface ε ρ α} (h : face.Honest)
    {source : String} {requests : List ρ} {answer : Except ε α} {failure : LexError}
    (hanswer : answer ∈ (ModuleLang.session face.perform (.ofSource source) requests).1)
    (hreport : .error failure ∈ face.reports answer) : scan source = .error failure := by
  obtain ⟨-, -, -, hreports⟩ := h.session requests (.ofSource source)
  obtain ⟨n, hn⟩ := hreports answer hanswer (.error failure) hreport
  rw [Lookahead.row_ofSource] at hn
  exact scan_of_row hn

/-! ## Parsing -/

/-- **A source that cannot be scanned is rejected**, for the same failure, or for a token that ends in front of it. -/
theorem parse_of_scan_error {source : String} {failure : LexError} (h : scan source = .error failure) :
    parse source = .error (.lexical failure) ∨
      ∃ expected found, parse source = .error (.unexpected expected found) ∧
        found.location.start + found.lexeme.length ≤ failure.location.start := by
  have hending : (TokenStream.ofSource source).ending = .error failure := scan_eq_error_iff.mp h
  cases hparse : parse source with
  | ok m =>
      obtain ⟨tokens, hscan, -⟩ := parse_covers hparse
      rw [h] at hscan
      cases hscan
  | error error =>
      rcases parse_verdict hparse with ⟨before, found, expected, hfault, rfl, -⟩ | ⟨failure', rfl, hending', -⟩
      · -- the stream has no end token, so the first fault is one of its tokens in front of the failure
        have hall : (TokenStream.ofSource source).all = (TokenStream.ofSource source).tokens := by
          rw [TokenStream.all, hending]
        have hbegins := hfault.begins
        rw [hall] at hbegins
        have hmem : found ∈ (TokenStream.ofSource source).tokens := hbegins.subset (by simp)
        exact .inr ⟨expected, found, rfl, TokenStream.ends_before_failure hmem hending⟩
      · cases hending'.symm.trans hending
        exact .inl rfl

/-- **All ways to a bad character agree.** A source cannot be scanned if and only if it has a stray character, and the
    failure is then about the first one. Whatever is asked of a reader or of a parser on the source, in any order and
    behind failures too, no other failure is ever returned. And a source that cannot be scanned is rejected, for this
    failure or for an unexpected token that ends in front of the character. -/
theorem strays_agree (source : String) :
    ((∃ failure, scan source = .error failure) ↔ ∃ c ∈ source.toList, Stray c) ∧
    (∀ failure, scan source = .error failure ↔ failure.AtFirstStray source.toList) ∧
    (∀ requests failure, .error failure ∈ (session Lookahead.perform (.ofSource source) requests).1 →
      scan source = .error failure) ∧
    (∀ steps failure, .error (.lexical failure) ∈ (session Parser.perform (.ofSource source) steps).1 →
      scan source = .error failure) ∧
    (∀ failure, parse source = .error (.lexical failure) → scan source = .error failure) ∧
    ∀ failure, scan source = .error failure →
      parse source = .error (.lexical failure) ∨
        ∃ expected found, parse source = .error (.unexpected expected found) ∧
          found.location.start + found.lexeme.length ≤ failure.location.start := by
  refine ⟨exists_scan_error_iff, fun failure => scan_eq_error_iff_stray, ?_, ?_, ?_, fun failure => parse_of_scan_error⟩
  · intro requests failure hanswer
    exact reader_honest.scan_of_reports hanswer (List.mem_singleton.mpr rfl)
  · intro steps failure hanswer
    exact parser_honest.scan_of_reports hanswer (List.mem_singleton.mpr rfl)
  · intro failure hparse
    rcases parse_verdict hparse with ⟨_, _, _, -, herror, -⟩ | ⟨failure', herror, hending, -⟩
    · cases herror
    · cases herror
      exact scan_eq_error_iff.mpr hending

/-- A null character behind an identifier on the second line. Looking too far fails with it, and so do a parser that
    is driven on behind the unexpected token, and the scan. -/
theorem strays_agree_at_null :
    let source := "module m\x7b\n1 x\x00 #"
    let failure : LexError := ⟨'\x00', ⟨1, 3, 13⟩⟩
    let found : Token := ⟨.identifier, "x", ⟨1, 2, 12⟩⟩
    .error failure ∈ (session Lookahead.perform (.ofSource source) [.peekNth 7, .next]).1 ∧
      .error (.lexical failure) ∈ (session Parser.perform (.ofSource source) [.wholeModule, .advance, .advance]).1 ∧
      scan source = .error failure ∧ failure.AtFirstStray source.toList ∧
      parse source = .error (.unexpected [.semicolon, .plus, .minus] found) ∧
      found.location.start + found.lexeme.length ≤ failure.location.start := by
  intro source failure found
  have hreader : (session Lookahead.perform (.ofSource source) [.peekNth 7, .next]).1.any
      (fun answer => decide (answer = .error failure)) = true := by decide +kernel
  have hparser : (session Parser.perform (.ofSource source) [.wholeModule, .advance, .advance]).1.any
      (fun answer => decide (answer = .error (.lexical failure))) = true := by decide +kernel
  obtain ⟨answer, hread, hanswer⟩ := List.any_eq_true.mp hreader
  rw [of_decide_eq_true hanswer] at hread
  obtain ⟨answer, hdriven, hanswer⟩ := List.any_eq_true.mp hparser
  rw [of_decide_eq_true hanswer] at hdriven
  have hparse : parse source = .error (.unexpected [.semicolon, .plus, .minus] found) := by decide +kernel
  obtain ⟨-, hfirst, hreaders, hparsers, -, hrejected⟩ := strays_agree source
  have hscan := hparsers _ failure hdriven
  refine ⟨hread, hdriven, hreaders _ failure hread, (hfirst failure).mp hscan, hparse, ?_⟩
  rcases hrejected failure hscan with hlexical | ⟨expected, found', hunexpected, hends⟩
  · cases hparse.symm.trans hlexical
  · cases hparse.symm.trans hunexpected
    exact hends

end ModuleLang
