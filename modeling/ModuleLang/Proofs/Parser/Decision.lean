import ModuleLang.Proofs.Parser.Taking
import ModuleLang.Proofs.Parser.Verdict

/-!
# `Proofs.Parser.Decision` — what decides how parsing ends

How parsing a source ends is decided by its tokens up to the first fault, if there is one, and of the tokens
before the fault only the kinds matter. So the endings of two sources can be compared without running the parser
on both.

## Contents
- **Reported lists** (`Reports`): the rules of the grammar report a few lists of kinds, and no two of these lists
  have the same members (`reportedLists_ext`). A list is therefore known as soon as its members are.
- **One first fault** (`FirstFault.unique`), at which every parse fails (`parse_of_firstFault`).
- **Syntax errors** (`parse_unexpected_congr`): two sources with the same kinds before their first faults get the
  same list of expected kinds.
- **Bad characters** (`parse_of_viable`): without a first fault, the failure that ends the tokens is the error.
-/

namespace ModuleLang

open Grammar

namespace Parser

variable {α β : Type} {p : Parser α} {f : α → Parser β}

/-! ## Reported lists -/

/-- The lists of kinds that the rules of the grammar report. -/
def reportedLists : List (List TokenKind) :=
  [[.moduleKeyword], [.identifier], [.leftBrace], [.rightBrace], [.eof], [.varKeyword], [.equals], [.semicolon],
    statementStart, expressionEnd, termStart]

/-- A reported list is known by its members. -/
theorem reportedLists_ext : ∀ first ∈ reportedLists, ∀ second ∈ reportedLists,
    first ⊆ second → second ⊆ first → first = second := by
  decide

/-- **A parser reports** one of these lists with every syntax error. -/
def Reports (p : Parser α) : Prop :=
  ∀ reader expected found left, p reader = .error (.unexpected expected found) left → expected ∈ reportedLists

theorem Reports.pure (a : α) : Reports (pure a : Parser α) := by
  intro reader expected found left h
  cases h

theorem Reports.bind (hp : Reports p) (hf : ∀ a, Reports (f a)) : Reports (p >>= f) := by
  intro reader expected found left h
  rcases bind_error h with hfirst | ⟨a, between, -, hsecond⟩
  · exact hp _ _ _ _ hfirst
  · exact hf a _ _ _ _ hsecond

/-- Looking fails with a bad character only. -/
theorem reports_lookAt (n : Nat) : Reports (lookAt n) := by
  intro reader expected found left h
  obtain ⟨between, hrun, -⟩ := lookAt_takes n reader
  rw [hrun] at h
  cases hrow : reader.row n with
  | ok token =>
      rw [hrow] at h
      cases h
  | error failure =>
      rw [hrow] at h
      cases h

theorem reports_advance : Reports advance := by
  intro reader expected found left h
  obtain ⟨between, hrun, -⟩ := advance_takes reader
  rw [hrun] at h
  cases hrow : reader.row 0 with
  | ok token =>
      rw [hrow] at h
      cases h
  | error failure =>
      rw [hrow] at h
      cases h

theorem reports_peekKind : Reports peekKind :=
  (reports_lookAt 0).bind fun _ => .pure _

theorem reports_check (kind : TokenKind) : Reports (check kind) :=
  reports_peekKind.bind fun _ => .pure _

theorem reports_report {expected : List TokenKind} (hexpected : expected ∈ reportedLists) :
    Reports (report expected : Parser α) := by
  refine (reports_lookAt 0).bind fun token => ?_
  intro reader listed found left h
  cases h
  exact hexpected

theorem reports_expect {kind : TokenKind} (hkind : [kind] ∈ reportedLists) : Reports (expect kind) := by
  refine (reports_check kind).bind fun holds => ?_
  cases holds with
  | true => exact reports_advance
  | false => exact reports_report hkind

/-- A repetition reports what its rounds report. -/
theorem Reports.repeatedly {step : α → Parser (Option α)} {advances : Advances step}
    (hround : ∀ a, Reports (step a)) (a : α) : Reports (repeatedly step advances a) := by
  intro reader expected found left h
  fun_induction Parser.repeatedly step advances a reader with
  | case1 a reader error between hrun =>
      cases h
      exact hround a _ _ _ _ hrun
  | case2 => cases h
  | case3 a reader next between hrun ih => exact ih h

/-! ### The rules of the grammar -/

theorem reports_term : Reports term := by
  refine reports_peekKind.bind fun kind => ?_
  split
  · exact reports_advance.bind fun _ => .pure _
  · exact reports_advance.bind fun _ => .pure _
  · exact reports_report (by decide)

theorem reports_link (lhs : Expr) : Reports (link lhs) := by
  refine reports_peekKind.bind fun kind => ?_
  split
  · exact .pure _
  · exact reports_advance.bind fun _ => reports_term.bind fun _ => .pure _

theorem reports_expression : Reports expression :=
  reports_term.bind fun lhs => .repeatedly reports_link lhs

theorem reports_isAssignment : Reports isAssignment := by
  refine (reports_check .identifier).bind fun holds => ?_
  cases holds with
  | true => exact (reports_lookAt 1).bind fun _ => .pure _
  | false => exact .pure _

theorem reports_declaration : Reports declaration :=
  (reports_expect (by decide)).bind fun _ => (reports_expect (by decide)).bind fun _ => .pure _

theorem reports_assignment : Reports assignment :=
  (reports_expect (by decide)).bind fun _ => (reports_expect (by decide)).bind fun _ =>
    reports_expression.bind fun _ => .pure _

theorem reports_statement : Reports statement := by
  have hopen : Reports (do if ← isAssignment then assignment else return .expression (← expression)) := by
    refine reports_isAssignment.bind fun holds => ?_
    cases holds with
    | true => exact reports_assignment
    | false => exact reports_expression.bind fun _ => .pure _
  refine reports_peekKind.bind fun kind => ?_
  split
  · exact reports_declaration
  · exact hopen
  · exact hopen
  · exact reports_report (by decide)

theorem reports_terminated : Reports terminated := by
  refine reports_statement.bind fun parsed => (reports_check .semicolon).bind fun holds => ?_
  cases holds with
  | true => exact reports_advance.bind fun _ => .pure _
  | false =>
      refine reports_report ?_
      show statementEnd parsed ∈ reportedLists
      cases parsed with
      | declaration => exact (by decide : [TokenKind.semicolon] ∈ reportedLists)
      | assignment => exact (by decide : expressionEnd ∈ reportedLists)
      | expression => exact (by decide : expressionEnd ∈ reportedLists)

theorem reports_item (parsed : List Statement) : Reports (item parsed) := by
  refine (reports_check .rightBrace).bind fun holds => ?_
  cases holds with
  | true => exact .pure _
  | false => exact reports_terminated.bind fun _ => .pure _

theorem reports_statements : Reports statements :=
  (Reports.repeatedly reports_item []).bind fun _ => .pure _

/-- **A module is rejected** with one of the lists. -/
theorem reports_wholeModule : Reports wholeModule := by
  refine (reports_expect (by decide)).bind fun word => (reports_expect (by decide)).bind fun name => ?_
  refine (reports_expect (by decide)).bind fun opening => reports_statements.bind fun items => ?_
  refine (reports_expect (by decide)).bind fun closing => (reports_expect (by decide)).bind fun last => ?_
  exact .pure _

end Parser

/-! ## One first fault -/

/-- **There is one first fault** at most: behind another one the tokens would not be viable. -/
theorem FirstFault.unique {tokens before before' : List Token} {found found' : Token}
    (h : FirstFault tokens before found) (h' : FirstFault tokens before' found') :
    before = before' ∧ found = found' := by
  -- of two prefixes the shorter one is the longer one, up to some place
  have hnot_shorter {first second : List Token} {bad other : Token} (hfirst : FirstFault tokens first bad)
      (hsecond : FirstFault tokens second other) : ¬ first.length < second.length := by
    intro hlt
    have hsecond_begins : second <+: tokens := (List.prefix_append second [other]).trans hsecond.begins
    have hlength : (first ++ [bad]).length ≤ second.length := by
      rw [List.length_append, List.length_singleton]
      exact hlt
    obtain ⟨more, hmore⟩ := List.prefix_of_prefix_length_le hfirst.begins hsecond_begins hlength
    have hviable := hsecond.viable
    rw [← hmore, kindsOf_append] at hviable
    exact hfirst.fault (hviable.begins _)
  have hlength : before.length = before'.length :=
    Nat.le_antisymm (Nat.le_of_not_lt (hnot_shorter h' h)) (Nat.le_of_not_lt (hnot_shorter h h'))
  have hprefix : before ++ [found] <+: before' ++ [found'] := by
    refine List.prefix_of_prefix_length_le h.begins h'.begins ?_
    rw [List.length_append, List.length_append, hlength]
    exact Nat.le_refl _
  have hrow : before ++ [found] = before' ++ [found'] := by
    refine hprefix.eq_of_length ?_
    rw [List.length_append, List.length_append, hlength]
    rfl
  obtain ⟨hbefore, hfound⟩ := List.append_inj hrow hlength
  exact ⟨hbefore, List.singleton_inj.mp hfound⟩

/-- Tokens that can be scanned and parsed are viable. -/
theorem viable_of_parse {source : String} {m : Module} (h : parse source = .ok m) :
    Viable (kindsOf (TokenStream.ofSource source).all) := by
  obtain ⟨tokens, hscan, hcovers⟩ := parse_covers h
  rw [all_of_scan hscan]
  refine ⟨[], ?_⟩
  rw [List.append_nil]
  exact hcovers.sentence

/-- **A source with a first fault** is rejected at this fault, whatever comes behind it. -/
theorem parse_of_firstFault {source : String} {before : List Token} {found : Token}
    (h : FirstFault (TokenStream.ofSource source).all before found) :
    ∃ expected, parse source = .error (.unexpected expected found) := by
  cases hparse : parse source with
  | ok m => exact absurd (viable_of_parse hparse) h.not_viable
  | error error =>
      rcases parse_verdict hparse with ⟨before', found', expected, hfault, rfl, -⟩ | ⟨failure, -, -, hviable⟩
      · obtain ⟨-, rfl⟩ := hfault.unique h
        exact ⟨expected, rfl⟩
      · exact absurd hviable h.not_viable

/-! ## Syntax errors -/

/-- A syntax error is about a first fault, and lists what is listed at the place where the tokens before it lead. -/
theorem parse_unexpected_place {source : String} {expected : List TokenKind} {found : Token}
    (h : parse source = .error (.unexpected expected found)) :
    ∃ before place, FirstFault (TokenStream.ofSource source).all before found ∧
      Place.opening.run (kindsOf before) = some place ∧ ∀ kind, kind ∈ expected ↔ Parser.Listed place kind := by
  rcases parse_cases source with ⟨_, _, _, hparse, _, _⟩ | ⟨error, left, hparse, hfaults⟩
  · cases hparse.symm.trans h
  · cases hparse.symm.trans h
    rw [Cursor.row_eq_nth] at hfaults
    cases hfaults with
    | @unexpected before place _ _ left htrail hstep hsome hexpected =>
        have hplace : place ≠ .finished := Parser.ne_finished_of_listed hsome hexpected
        have hfault := htrail.firstFault (TokenStream.proper_ofCursor _) hplace hstep
        exact ⟨before, place, hfault, htrail.run_eq, hexpected⟩

theorem parse_unexpected_reported {source : String} {expected : List TokenKind} {found : Token}
    (h : parse source = .error (.unexpected expected found)) : expected ∈ Parser.reportedLists := by
  -- as in `parse_cases`, the definition of `parse` is enough
  delta parse at h
  cases hrun : Parser.wholeModule (.ofSource source) with
  | ok m left =>
      rw [hrun] at h
      cases h
  | error error left =>
      rw [hrun] at h
      cases h
      exact Parser.reports_wholeModule _ _ _ _ hrun

/-- **What decides about a syntax error.** Any other source that has its first fault behind tokens of the same
    kinds is rejected at that fault, and the same kinds are listed in the same order. -/
theorem parse_unexpected_congr {source : String} {expected : List TokenKind} {found : Token}
    (h : parse source = .error (.unexpected expected found)) :
    ∃ before, FirstFault (TokenStream.ofSource source).all before found ∧
      ∀ source' before' found', FirstFault (TokenStream.ofSource source').all before' found' →
        kindsOf before' = kindsOf before → parse source' = .error (.unexpected expected found') := by
  obtain ⟨before, place, hfault, hrun, hexpected⟩ := parse_unexpected_place h
  refine ⟨before, hfault, ?_⟩
  intro source' before' found' hfault' hkinds
  obtain ⟨expected', h'⟩ := parse_of_firstFault hfault'
  obtain ⟨before'', place', hfault'', hrun', hexpected'⟩ := parse_unexpected_place h'
  -- the same kinds lead to the same place, so the lists have the same members
  obtain ⟨rfl, -⟩ := hfault''.unique hfault'
  rw [hkinds, hrun, Option.some.injEq] at hrun'
  subst hrun'
  have hlists : expected' = expected := by
    refine Parser.reportedLists_ext _ (parse_unexpected_reported h') _ (parse_unexpected_reported h) ?_ ?_
    · intro kind hmem
      exact (hexpected kind).mpr ((hexpected' kind).mp hmem)
    · intro kind hmem
      exact (hexpected' kind).mpr ((hexpected kind).mp hmem)
  rw [h', hlists]

/-! ## Bad characters -/

/-- **A source without a first fault** that cannot be scanned is rejected for its bad character. -/
theorem parse_of_viable {source : String} {failure : LexError}
    (hending : (TokenStream.ofSource source).ending = .error failure)
    (hviable : Viable (kindsOf (TokenStream.ofSource source).all)) :
    parse source = .error (.lexical failure) := by
  cases hparse : parse source with
  | ok m =>
      obtain ⟨tokens, hscan, -⟩ := parse_covers hparse
      obtain ⟨last, hlast, -⟩ := scan_eq_ok_iff.mp hscan
      cases hlast.symm.trans hending
  | error error =>
      rcases parse_verdict hparse with ⟨before, found, expected, hfault, -, -⟩ | ⟨failure', rfl, hending', -⟩
      · exact absurd hviable hfault.not_viable
      · cases hending'.symm.trans hending
        rfl

end ModuleLang
