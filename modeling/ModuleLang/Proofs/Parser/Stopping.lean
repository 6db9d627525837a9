import ModuleLang.Parser.Grammar
import ModuleLang.Proofs.Parser.Rules
import ModuleLang.Proofs.Parser.Taking

/-!
# `Proofs.Parser.Stopping` — where a parser stops

A parser that is driven step by step is left at a definite place by every step, whether the step succeeds or fails:
behind the tokens that have been taken. A step that fails stands in front of the token or the bad character that
its error is about. There is one exception, since telling an assignment from an expression takes a look at two
tokens.

## Contents
- **The rules** (`exact_term` up to `fails_wholeModule`): no rule takes an end token, but for the last token of a
  module.
- **Requests** (`Request.does`): what each request does to any reader.
- **Behind an identifier** (`taken_before_name`): where a whole module fails in front of an identifier, a statement
  begins with it.
- **Sessions** (`session_takes`): any steps together take some number of tokens, by induction on the steps.
- **`perform_stops`**: where a step stops, whatever steps were performed before it.
-/

namespace ModuleLang

namespace Parser

open Grammar

variable {past : Prop} {row : Row}

/-! ## The rules -/

theorem exact_term : Exact past term row := by
  refine .peekKind fun token left hrow => ?_
  subst hrow
  split
  case h_1 hkind => exact (Exact.advance (by rw [hkind]; decide)).andThen fun _ _ => .pure _
  case h_2 hkind => exact (Exact.advance (by rw [hkind]; decide)).andThen fun _ _ => .pure _
  case h_3 => exact .report _

theorem exact_link (lhs : Expr) : Exact past (link lhs) row := by
  refine .peekKind fun token left hrow => ?_
  subst hrow
  cases hoperator : operator? token.kind with
  | none => exact .pure none
  | some operator =>
      have hinner : token.kind ≠ .eof := by
        intro hlast
        rw [hlast] at hoperator
        cases hoperator
      exact (Exact.advance hinner).andThen fun _ _ => exact_term.andThen fun _ _ => .pure _

theorem exact_expression : Exact past expression row :=
  exact_term.andThen fun lhs _ => .repeatedly (fun lhs _ => exact_link lhs) lhs

/-- Looking past an identifier takes nothing. It fails where the row fails behind the identifier. -/
theorem exact_lookAt_next {name : Token} {left : Row} (hpast : past) (hname : name.kind = .identifier) :
    Exact past (lookAt 1) (Row.cons name left) := by
  intro reader hreader
  obtain ⟨between, hrun, htakes⟩ := lookAt_takes 1 reader
  have hbetween : between.row = Row.cons name left := by
    rw [htakes.row_eq, Row.drop_zero, hreader]
  rw [hreader, Row.cons_succ] at hrun
  rw [hrun]
  cases hfirst : left 0 with
  | ok mark =>
      refine ⟨?_, nofun⟩
      rintro _ _ ⟨⟩
      exact ⟨0, htakes, nofun⟩
  | error failure =>
      refine ⟨nofun, ?_⟩
      rintro _ _ ⟨⟩
      exact ⟨0, htakes, nofun, hbetween ▸ .behindName hpast hname hfirst⟩

/-- Telling assignments from expressions takes nothing, but may look past an identifier. -/
theorem exact_isAssignment (hpast : past) : Exact past isAssignment row := by
  refine .check fun token left hrow => ?_
  subst hrow
  by_cases hname : token.kind = .identifier
  · rw [beq_iff_eq.mpr hname]
    exact (exact_lookAt_next hpast hname).andThen fun _ _ => .pure _
  · rw [beq_false_of_ne hname]
    exact .pure false

theorem exact_declaration : Exact past declaration row :=
  (Exact.expect (by decide)).andThen fun _ _ => (Exact.expect (by decide)).andThen fun _ _ => .pure _

theorem exact_assignment : Exact past assignment row :=
  (Exact.expect (by decide)).andThen fun _ _ => (Exact.expect (by decide)).andThen fun _ _ =>
    exact_expression.andThen fun _ _ => .pure _

theorem exact_statement (hpast : past) : Exact past statement row := by
  have hopen : Exact past (do if ← isAssignment then assignment else return .expression (← expression)) row := by
    refine (exact_isAssignment hpast).andThen fun holds _ => ?_
    cases holds
    · exact exact_expression.andThen fun _ _ => .pure _
    · exact exact_assignment
  refine .peekKind fun token left hrow => ?_
  split
  case h_1 => exact exact_declaration
  case h_2 => exact hopen
  case h_3 => exact hopen
  case h_4 => exact .report _

theorem exact_terminated (hpast : past) : Exact past terminated row := by
  refine (exact_statement hpast).andThen fun parsed row => .check fun token left hrow => ?_
  subst hrow
  by_cases hmark : token.kind = .semicolon
  · rw [beq_iff_eq.mpr hmark]
    exact (Exact.advance (by rw [hmark]; decide)).andThen fun _ _ => .pure _
  · rw [beq_false_of_ne hmark]
    exact .report _

theorem exact_item (hpast : past) (parsed : List Statement) : Exact past (item parsed) row := by
  refine .check fun token left _ => ?_
  split
  · exact .pure none
  · exact (exact_terminated hpast).andThen fun _ _ => .pure _

theorem exact_statements (hpast : past) : Exact past statements row :=
  (Exact.repeatedly (fun parsed _ => exact_item hpast parsed) []).andThen fun _ _ => .pure _

theorem fails_wholeModule : FailsExactly True wholeModule := by
  refine .bind (fun _ => .expect nofun) fun _ => .bind (fun _ => .expect nofun) fun name => ?_
  refine .bind (fun _ => .expect nofun) fun _ => .bind (fun _ => exact_statements trivial) fun items => ?_
  refine .bind (fun _ => .expect nofun) fun _ => Step.fails ((step_expect .eof).map _)

/-! ## Requests -/

/-- How many tokens a request may take, given its answer. To look takes none, and to take one takes one, unless it
    fails. For the rules of the grammar the number depends on the source. -/
def Request.Moves : Request → Except ParseError Answer → Nat → Prop
  | .peek, _, count | .check _, _, count | .report _, _, count => count = 0
  | .advance, answer, count | .expect _, answer, count => count = if answer.isOk then 1 else 0
  | .expression, _, _ | .wholeModule, _, _ => True

/-- **What a request does**: it takes some tokens, and if it fails, these are no end tokens and it has stopped in
    front of what its error is about. Only for a whole module this may be an identifier further. -/
structure Request.Does (request : Request) (reader : Lookahead) (answer : Except ParseError Answer) (count : Nat)
    (left : Lookahead) : Prop where
  /-- The request ends with the answer, and leaves the reader. -/
  run_eq : perform request reader = conclude answer left
  /-- Between the two readers the tokens are taken. -/
  takes : reader.Takes count left
  /-- There are as many tokens as the request says. -/
  moves : request.Moves answer count
  /-- A failure takes no end token. -/
  inner : ∀ error, answer = .error error → reader.row.Inner count
  /-- A failure stands in front of what its error is about. -/
  halts : ∀ error, answer = .error error → Halts (request = .wholeModule) error left.row

theorem Request.does_of_step (request : Request) {n : Nat} (h : Step n (perform request))
    (hok : ∀ answer, request.Moves (.ok answer) n) (herror : ∀ error, request.Moves (.error error) 0)
    (reader : Lookahead) : ∃ answer count left, request.Does reader answer count left := by
  rcases h reader with ⟨answer, left, hrun, htakes⟩ | ⟨error, left, hrun, htakes, hhalts⟩
  · exact ⟨.ok answer, n, left, hrun, htakes, hok answer, nofun, nofun⟩
  · refine ⟨.error error, 0, left, hrun, htakes, herror error, fun _ _ => nofun, ?_⟩
    rintro _ ⟨⟩
    exact hhalts.mono False.elim

theorem Request.does_of_fails (request : Request) (h : FailsExactly (request = .wholeModule) (perform request))
    (hmoves : ∀ answer count, request.Moves answer count) (reader : Lookahead) :
    ∃ answer count left, request.Does reader answer count left := by
  rcases h reader with ⟨answer, count, left, hrun, htakes⟩ | ⟨error, count, left, hrun, htakes, hinner, hhalts⟩
  · exact ⟨.ok answer, count, left, hrun, htakes, hmoves _ _, nofun, nofun⟩
  · refine ⟨.error error, count, left, hrun, htakes, hmoves _ _, fun _ _ => hinner, ?_⟩
    rintro _ ⟨⟩
    exact hhalts

/-- **Every request**, on every reader. -/
theorem Request.does (request : Request) (reader : Lookahead) :
    ∃ answer count left, request.Does reader answer count left := by
  cases request with
  | peek => exact does_of_step .peek (step_peek.map _) (fun _ => rfl) (fun _ => rfl) reader
  | advance => exact does_of_step .advance (step_advance.map _) (fun _ => rfl) (fun _ => rfl) reader
  | check kind => exact does_of_step (.check kind) ((step_check kind).map _) (fun _ => rfl) (fun _ => rfl) reader
  | expect kind => exact does_of_step (.expect kind) ((step_expect kind).map _) (fun _ => rfl) (fun _ => rfl) reader
  | report expected => exact does_of_step (.report expected) (step_report 0 expected) (fun _ => rfl) (fun _ => rfl) reader
  | expression =>
      exact does_of_fails .expression ((Exact.fails fun _ => exact_expression).map _) (fun _ _ => trivial) reader
  | wholeModule =>
      refine does_of_fails .wholeModule ?_ (fun _ _ => trivial) reader
      rw [eq_self]
      exact fails_wholeModule.map _

/-! ## Behind an identifier -/

/-- A row has one first failure. -/
theorem first_failure_unique {row : Row} {place place' : Nat} {failure failure' : LexError}
    (htokens : ∀ n < place, ∃ token, row n = .ok token) (hfailure : row place = .error failure)
    (htokens' : ∀ n < place', ∃ token, row n = .ok token) (hfailure' : row place' = .error failure') :
    place = place' := by
  rcases Nat.lt_trichotomy place place' with hlt | heq | hgt
  · obtain ⟨token, htoken⟩ := htokens' place hlt
    cases hfailure.symm.trans htoken
  · exact heq
  · obtain ⟨token, htoken⟩ := htokens place' hgt
    cases hfailure'.symm.trans htoken

/-- Behind some tokens and one more, a row may have its first failure. -/
theorem first_failure_behind {row left : Row} {count : Nat} {name : Token} {failure : LexError}
    (htokens : ∀ n < count, ∃ token, row n = .ok token) (hleft : row.drop count = Row.cons name left)
    (hfailure : left 0 = .error failure) :
    (∀ n < count + 1, ∃ token, row n = .ok token) ∧ row (count + 1) = .error failure := by
  refine ⟨fun n hn => ?_, (congrFun hleft 1).trans hfailure⟩
  rcases Nat.lt_or_eq_of_le (Nat.le_of_lt_succ hn) with hlt | rfl
  · exact htokens n hlt
  · exact ⟨name, congrFun hleft 0⟩

/-- **A failure behind an identifier** is one behind an identifier that a statement begins with. -/
theorem taken_before_name {reader left : Lookahead} {failure : LexError} {count : Nat} {name : Token} {rest : Row}
    (h : Request.wholeModule.Does reader (.error (.lexical failure)) count left)
    (hleft : left.row = Row.cons name rest) (hrest : rest 0 = .error failure) :
    ∃ taken : List Token, taken.length = count ∧ (∀ n (hn : n < taken.length), reader.row n = .ok taken[n]) ∧
      BeforeStatement (kindsOf taken) := by
  have hrun : wholeModule reader = .error (.lexical failure) left := by
    rcases bind_error h.run_eq with hrun | ⟨_, _, _, hpure⟩
    · exact hrun
    · cases hpure
  have hdrop : reader.row.drop count = left.row := h.takes.row_eq.symm
  rcases meets_wholeModule reader.row reader rfl with ⟨_, _, hok, -⟩ | ⟨_, _, herror, hfaults⟩
  · cases hrun.symm.trans hok
  · cases hrun.symm.trans herror
    generalize left.row = row at hfaults hleft hdrop
    cases hfaults with
    | lexical htrail hfailure =>
        subst hleft
        cases hfailure
    | @behindName taken name' _ left' htrail hname hfailure =>
        -- the trail comes to the same place: both are one token in front of the first failure
        have htaken (n : Nat) (hn : n < taken.length) : reader.row n = .ok taken[n] := by
          rw [htrail.row_eq]
          exact Row.foldr_cons_lt hn
        have hdrop' : reader.row.drop taken.length = Row.cons name' left' := by
          rw [htrail.row_eq]
          exact funext (Row.foldr_cons_add taken _)
        have hinner (n : Nat) (hn : n < count) : ∃ token, reader.row n = .ok token := by
          obtain ⟨token, htoken, -⟩ := h.inner _ rfl n hn
          exact ⟨token, htoken⟩
        obtain ⟨htokens, hfirst⟩ := first_failure_behind hinner (hdrop.trans hleft) hrest
        obtain ⟨htokens', hfirst'⟩ := first_failure_behind (fun n hn => ⟨_, htaken n hn⟩) hdrop' hfailure
        have hlength := first_failure_unique htokens' hfirst' htokens hfirst
        exact ⟨taken, Nat.succ.inj hlength, htaken, (beforeStatement_iff_run _).mpr htrail.run_eq⟩

/-! ## Sessions -/

/-- A session takes some number of tokens. -/
theorem session_takes (steps : List Request) (reader : Lookahead) :
    ∃ count, reader.Takes count (session perform reader steps).2 := by
  induction steps generalizing reader with
  | nil => exact ⟨0, .refl reader⟩
  | cons step steps ih =>
      obtain ⟨answer, count, between, hdoes⟩ := step.does reader
      obtain ⟨count', htakes⟩ := ih between
      rw [session_conclude hdoes.run_eq]
      exact ⟨count + count', hdoes.takes.trans htakes⟩

/-- The token in front of a reader is the next that it hands out. -/
theorem advance_of_row {reader : Lookahead} {token : Token} {rest : Row} (hrow : reader.row = Row.cons token rest) :
    ∃ left, perform .advance reader = .ok (.token token) left ∧ left.row = rest := by
  rcases (Meets.advance.next (.pure ⟨rfl, rfl⟩) : Meets (perform .advance) (Row.cons token rest)
    (fun _ _ => False) fun answer left => answer = .token token ∧ left = rest) reader hrow with
    ⟨_, left, hrun, rfl, hleft⟩ | ⟨_, _, _, hfalse⟩
  · exact ⟨left, hrun, hleft⟩
  · exact hfalse.elim

/-- The failure in front of a reader is what it answers. -/
theorem advance_of_failure {reader : Lookahead} {failure : LexError} (hrow : reader.row 0 = .error failure) :
    ∃ left, perform .advance reader = .error (.lexical failure) left := by
  obtain ⟨left, hrun, -⟩ := advance_takes reader
  rw [hrow] at hrun
  exact ⟨left, bind_of_error hrun⟩

/-- **Where steps stop.** Let `S` be the row of a source. Whatever steps were put to a parser before, and whether
    they succeeded or failed, some number `p` of tokens has been taken, and one number only, but for end tokens.
    The next step takes `count` more: none if it is to look, and one if it is to take one and succeeds. If it fails
    with a syntax error, it has taken the tokens in front of the unexpected one, which is the next to be handed
    out. If it fails with a bad character, this comes next in `S`; only a whole module may fail one token earlier,
    in front of an identifier that a statement begins with, which is handed out before the failure shows again. -/
theorem perform_stops (source : String) (steps : List Request) (step : Request) :
    let S := (Cursor.ofSource source).row
    let start := Lookahead.ofSource source
    let here := (session perform start steps).2
    (∃ p, start.Takes p here) ∧
    (∀ p p', start.Takes p here → start.Takes p' here →
      p = p' ∨ ∃ last : Token, last.kind = .eof ∧ ∀ n, S (p + n) = .ok last) ∧
    ∀ p, start.Takes p here → ∃ answer count left,
      perform step here = conclude answer left ∧ here.Takes count left ∧ step.Moves answer count ∧
      (∀ expected found, answer = .error (.unexpected expected found) →
        (∀ n < count, ∃ token, S (p + n) = .ok token ∧ token.kind ≠ .eof) ∧ S (p + count) = .ok found ∧
          ∃ next, perform .advance left = .ok (.token found) next) ∧
      ∀ failure, answer = .error (.lexical failure) →
        S (p + count) = .error failure ∨
        step = .wholeModule ∧ ∃ taken name,
          (taken.length = count ∧ ∀ n (hn : n < taken.length), S (p + n) = .ok taken[n]) ∧
          BeforeStatement (kindsOf taken) ∧ S (p + count) = .ok name ∧ name.kind = .identifier ∧
          S (p + (count + 1)) = .error failure ∧
          ∃ next, perform .advance left = .ok (.token name) next ∧
            ∃ again, perform .advance next = .error (.lexical failure) again := by
  intro S start here
  have hunique (p p' : Nat) (h : start.Takes p here) (h' : start.Takes p' here) :
      p = p' ∨ ∃ last : Token, last.kind = .eof ∧ ∀ n, S (p + n) = .ok last := by
    have hrow := h.unique h'
    rwa [h.row_ofSource] at hrow
  refine ⟨session_takes steps start, hunique, fun p htakes => ?_⟩
  obtain ⟨answer, count, left, hdoes⟩ := step.does here
  -- the row in front of the parser is `S` from `p` on, and so on
  have hhere : here.row = S.drop p := htakes.row_ofSource
  have hleft : S.drop (p + count) = left.row := by
    rw [hdoes.takes.row_eq, hhere, Row.drop_drop]
  refine ⟨answer, count, left, hdoes.run_eq, hdoes.takes, hdoes.moves, ?_, ?_⟩
  · rintro expected found rfl
    have hhalts := hdoes.halts _ rfl
    have hinner := hdoes.inner _ rfl
    rw [hhere] at hinner
    generalize hrow : left.row = row at hhalts hleft
    cases hhalts with
    | unexpected expected found rest =>
        obtain ⟨next, hnext, -⟩ := advance_of_row hrow
        exact ⟨hinner, congrFun hleft 0, next, hnext⟩
  · rintro failure rfl
    have hhalts := hdoes.halts _ rfl
    generalize hrow : left.row = row at hhalts hleft
    cases hhalts with
    | lexical hfailure => exact .inl ((congrFun hleft 0).trans hfailure)
    | @behindName name _ rest hmodule hname hfailure =>
        subst hmodule
        obtain ⟨taken, hlength, htaken, hbefore⟩ := taken_before_name hdoes hrow hfailure
        obtain ⟨next, hnext, hrest⟩ := advance_of_row hrow
        have hbad : next.row 0 = .error failure := by rw [hrest]; exact hfailure
        obtain ⟨again, hagain⟩ := advance_of_failure hbad
        rw [hhere] at htaken
        exact .inr ⟨rfl, taken, name, ⟨hlength, htaken⟩, hbefore, congrFun hleft 0, hname,
          (congrFun hleft 1).trans hfailure, next, hnext, again, hagain⟩

/-- A bad character behind an identifier that a statement begins with: the identifier has not been taken. -/
theorem perform_stops_behind_name :
    let start := Lookahead.ofSource "module m\x7bx #"
    let bad : LexError := ⟨'#', ⟨0, 11, 11⟩⟩
    start.Takes 0 start ∧ ∃ count left, perform .wholeModule start = .error (.lexical bad) left ∧
      start.Takes count left ∧ ∃ name next again, name.kind = .identifier ∧
        perform .advance left = .ok (.token name) next ∧ perform .advance next = .error (.lexical bad) again := by
  intro start bad
  obtain ⟨answer, count, left, hrun, htakes, -, -, hlexical⟩ :=
    (perform_stops "module m\x7bx #" [] .wholeModule).2.2 0 (.refl start)
  simp only [session] at hrun htakes
  -- the step fails with the bad character, and an advance behind it does not
  have hanswers : (session perform (Lookahead.ofSource "module m\x7bx #") [.wholeModule, .advance]).1.map
      (fun answer => decide (answer = .error (.lexical ⟨'#', ⟨0, 11, 11⟩⟩))) = [true, false] := by decide +kernel
  rw [session_conclude hrun] at hanswers
  simp only [List.map_cons, List.cons.injEq, decide_eq_true_eq] at hanswers
  obtain ⟨rfl, hadvance⟩ := hanswers
  rcases hlexical bad rfl with hfailure | ⟨-, taken, name, -, -, -, hname, -, next, hnext, again, hagain⟩
  · -- with the bad character next, the advance would have failed with it
    have hrow : left.row 0 = .error bad := by
      rw [Lookahead.Takes.row_ofSource htakes, Row.drop, Nat.add_comm]
      exact hfailure
    obtain ⟨_, hfails⟩ := advance_of_failure hrow
    rw [session, hfails] at hadvance
    exact (of_decide_eq_false (List.cons.inj hadvance).1 rfl).elim
  · exact ⟨.refl start, count, left, hrun, htakes, name, next, again, hname, hnext, hagain⟩

end Parser

end ModuleLang
