import ModuleLang.Proofs.Parser.Logic

/-!
# `Proofs.Parser.Taking` — how many tokens a parser takes

A reader does not count the tokens that it has handed out. But whatever a parser does to a reader, it does by
requests to it, and each request takes one token or none.

## Contents
- **`Lookahead.Takes`**: taking a number of tokens leads from one reader to another. The row in front of the
  other is the row behind these tokens (`Takes.row_eq`), so the number is determined, but for end tokens
  (`Takes.unique`).
- **`Halts`**: a parser that fails has stopped in front of what its error is about.
- **`Step`**: a parser that takes a fixed number of tokens, or fails and takes none. So do all steps of
  `Parser.Basic`, from `step_peek` to `step_expect`.
- **`Exact`**: a parser that takes no end token. This is known of a sequence from its parts (`Exact.bind`,
  `Exact.knowing`) and of a repetition from its rounds (`Exact.repeatedly`).
- **`FailsExactly`**: the same for failures only, so that a parser may take the end token and succeed.
-/

namespace ModuleLang

/-! ## Rows -/

/-- The first answers of a row are tokens, and no end tokens. -/
def Row.Inner (row : Row) (count : Nat) : Prop :=
  ∀ n < count, ∃ token, row n = .ok token ∧ token.kind ≠ .eof

theorem Row.Inner.append {row : Row} {count count' : Nat} (h : row.Inner count)
    (h' : (row.drop count).Inner count') : row.Inner (count + count') := by
  intro n hn
  by_cases hlt : n < count
  · exact h n hlt
  · obtain ⟨more, rfl⟩ := Nat.le.dest (Nat.le_of_not_lt hlt)
    exact h' more (by omega)

/-- A row that settles and repeats itself has settled. -/
theorem Row.Settles.of_repeats {row : Row} (h : row.Settles) {count more : Nat} (hmore : 0 < more)
    (hrepeats : row.drop count = row.drop (count + more)) :
    (∃ last : Token, last.kind = .eof ∧ ∀ n, row.drop count n = .ok last) ∨
      ∃ failure, ∀ n, row.drop count n = .error failure := by
  obtain ⟨place, -, hends⟩ := h
  have hperiod (rounds n : Nat) : row.drop count n = row.drop count (n + rounds * more) := by
    induction rounds with
    | zero => rw [Nat.zero_mul, Nat.add_zero]
    | succ rounds ih =>
        rw [ih, congrFun hrepeats, Row.drop, Row.drop]
        congr 1
        rw [Nat.succ_mul]
        omega
  -- after enough rounds every answer is one of those that are the same for ever
  have hlate (n : Nat) : ∃ late, row.drop count n = row (place + late) := by
    have hle : place ≤ place * more := Nat.le_mul_of_pos_right place hmore
    refine ⟨count + n + (place * more - place), (hperiod place n).trans ?_⟩
    rw [Row.drop]
    congr 1
    omega
  rcases hends with ⟨last, hlast, hrow⟩ | ⟨failure, hrow⟩
  · refine .inl ⟨last, hlast, fun n => ?_⟩
    obtain ⟨late, hn⟩ := hlate n
    rw [hn, hrow]
  · refine .inr ⟨failure, fun n => ?_⟩
    obtain ⟨late, hn⟩ := hlate n
    rw [hn, hrow]

/-! ## From reader to reader -/

namespace Lookahead

/-- **Taking `count` tokens** leads from one reader to another: some requests do, and this many of them took a
    token. -/
inductive Takes : Lookahead → Nat → Lookahead → Prop where
  | refl (reader : Lookahead) : Takes reader 0 reader
  | cons {reader between left : Lookahead} {count : Nat} {request : Request} {reply : Except LexError Answer} :
      perform request reader = conclude reply between → Takes between count left →
      Takes reader (request.takes reply + count) left

variable {reader between left : Lookahead} {count count' : Nat}

/-- One request. -/
theorem Takes.single {request : Request} {reply : Except LexError Answer}
    (h : perform request reader = conclude reply left) : reader.Takes (request.takes reply) left :=
  .cons h (.refl left)

theorem Takes.trans (h : reader.Takes count between) (h' : between.Takes count' left) :
    reader.Takes (count + count') left := by
  induction h with
  | refl => rwa [Nat.zero_add]
  | cons hperform _ ih =>
      rw [Nat.add_assoc]
      exact .cons hperform (ih h')

/-- The row loses the tokens that are taken. -/
theorem Takes.row_eq (h : reader.Takes count left) : left.row = reader.row.drop count := by
  induction h with
  | refl => exact (Row.drop_zero _).symm
  | @cons reader between left count request reply hperform _ ih =>
      obtain ⟨reply', between', hperform', -, hrow⟩ := perform_row request reader
      obtain ⟨rfl, rfl⟩ := conclude_inj (hperform'.symm.trans hperform)
      rw [ih, hrow, Row.drop_drop]

/-- The row behind the tokens that were taken from a source. -/
theorem Takes.row_ofSource {source : String} (h : (ofSource source).Takes count left) :
    left.row = (Cursor.ofSource source).row.drop count :=
  h.row_eq

/-- A request takes a token only if one comes next. -/
theorem Replies.takes_cases {row : Row} {request : Request} {reply : Except LexError Answer}
    (h : Replies row request reply) :
    request.takes reply = 0 ∨ request.takes reply = 1 ∧ ∃ token, row 0 = .ok token := by
  cases h with
  | next =>
      cases hrow : row 0 with
      | ok token => exact .inr ⟨rfl, token, rfl⟩
      | error failure => exact .inl rfl
  | _ => exact .inl rfl

/-- Only tokens are taken. -/
theorem Takes.tokens (h : reader.Takes count left) : ∀ n < count, ∃ token, reader.row n = .ok token := by
  induction h with
  | refl => exact nofun
  | @cons reader between left count request reply hperform _ ih =>
      obtain ⟨reply', between', hperform', hreplies, hrow⟩ := perform_row request reader
      obtain ⟨rfl, rfl⟩ := conclude_inj (hperform'.symm.trans hperform)
      intro n hn
      rcases hreplies.takes_cases with hnone | ⟨hone, token, htoken⟩
      · rw [hnone, Nat.zero_add] at hn
        rw [hnone, Row.drop_zero] at hrow
        exact hrow ▸ ih n hn
      · rw [hone] at hn hrow
        cases n with
        | zero => exact ⟨token, htoken⟩
        | succ n =>
            obtain ⟨next, hnext⟩ := ih n (by omega)
            rw [hrow, Row.drop, Nat.add_comm] at hnext
            exact ⟨next, hnext⟩

theorem Takes.eq_or_end_of_le {source : String} (h : (ofSource source).Takes count left)
    (h' : (ofSource source).Takes count' left) (hle : count ≤ count') :
    count = count' ∨ ∃ last : Token, last.kind = .eof ∧ ∀ n, left.row n = .ok last := by
  obtain ⟨more, rfl⟩ := Nat.le.dest hle
  rcases Nat.eq_zero_or_pos more with rfl | hmore
  · exact .inl rfl
  · have hrepeats := h.row_ofSource.symm.trans h'.row_ofSource
    rcases (Cursor.row_settles _).of_repeats hmore hrepeats with hend | ⟨failure, hfailure⟩
    · rw [h.row_ofSource]
      exact .inr hend
    · obtain ⟨token, htoken⟩ := h'.tokens count (by omega)
      rw [Lookahead.row_ofSource] at htoken
      have hcount : (Cursor.ofSource source).row count = .error failure := hfailure 0
      cases htoken.symm.trans hcount

/-- **The number of tokens taken** is determined by the reader, but for end tokens. -/
theorem Takes.unique {source : String} (h : (ofSource source).Takes count left)
    (h' : (ofSource source).Takes count' left) :
    count = count' ∨ ∃ last : Token, last.kind = .eof ∧ ∀ n, left.row n = .ok last := by
  rcases Nat.le_total count count' with hle | hle
  · exact h.eq_or_end_of_le h' hle
  · exact (h'.eq_or_end_of_le h hle).imp_left Eq.symm

end Lookahead

namespace Parser

variable {α β : Type} {p : Parser α} {f : α → Parser β} {row : Row} {reader left : Lookahead}

/-! ## Where a parser stops -/

/-- **A failure stands in front of what it is about**: the unexpected token, or the failure of the row. If `past`
    holds, the parser may also have looked past an identifier and have failed there. -/
inductive Halts (past : Prop) : ParseError → Row → Prop where
  | unexpected (expected : List TokenKind) (found : Token) (left : Row) :
      Halts past (.unexpected expected found) (Row.cons found left)
  | lexical {failure : LexError} {left : Row} : left 0 = .error failure → Halts past (.lexical failure) left
  | behindName {name : Token} {failure : LexError} {left : Row} : past → name.kind = .identifier →
      left 0 = .error failure → Halts past (.lexical failure) (Row.cons name left)

theorem Halts.mono {past past' : Prop} {error : ParseError} (h : Halts past error row) (hpast : past → past') :
    Halts past' error row := by
  cases h with
  | unexpected expected found left => exact .unexpected expected found left
  | lexical hrow => exact .lexical hrow
  | behindName hpast' hname hrow => exact .behindName (hpast hpast') hname hrow

/-! ## Single steps -/

/-- Looking takes nothing, whether it succeeds or fails. -/
theorem lookAt_takes (n : Nat) (reader : Lookahead) :
    ∃ left, lookAt n reader = conclude ((reader.row n).mapError .lexical) left ∧ reader.Takes 0 left := by
  obtain ⟨left, hpeek, -⟩ := Lookahead.peekNth_row n reader
  have hperform : Lookahead.perform (.peekNth n) reader = conclude ((reader.row n).map .token) left :=
    Lookahead.map_conclude _ hpeek
  refine ⟨left, ?_, .single hperform⟩
  simp only [lookAt, EStateM.adaptExcept, hpeek]
  cases reader.row n <;> rfl

/-- Advancing takes one token, or fails and takes none. -/
theorem advance_takes (reader : Lookahead) :
    ∃ left, advance reader = conclude ((reader.row 0).mapError .lexical) left ∧
      reader.Takes (if (reader.row 0).isOk then 1 else 0) left := by
  obtain ⟨left, hnext, -⟩ := Lookahead.next_row reader
  have hperform : Lookahead.perform .next reader = conclude ((reader.row 0).map .token) left :=
    Lookahead.map_conclude _ hnext
  have htakes : Lookahead.Request.next.takes ((reader.row 0).map .token) =
      if (reader.row 0).isOk then 1 else 0 := by
    cases reader.row 0 <;> rfl
  refine ⟨left, ?_, htakes ▸ .single hperform⟩
  simp only [advance, EStateM.adaptExcept, hnext]
  cases reader.row 0 <;> rfl

/-- **A single step** takes `n` tokens if it succeeds. If it fails, it takes none, and stands in front of what its
    error is about. -/
def Step (n : Nat) (p : Parser α) : Prop :=
  ∀ reader, (∃ a left, p reader = .ok a left ∧ reader.Takes n left) ∨
    ∃ error left, p reader = .error error left ∧ reader.Takes 0 left ∧ Halts False error left.row

theorem Step.pure (a : α) : Step 0 (pure a : Parser α) := fun reader =>
  .inl ⟨a, reader, rfl, .refl reader⟩

/-- A step behind one that takes nothing. -/
theorem Step.bind {n : Nat} (hp : Step 0 p) (hf : ∀ a, Step n (f a)) : Step n (p >>= f) := by
  intro reader
  rcases hp reader with ⟨a, between, hrun, htakes⟩ | ⟨error, left, hrun, htakes, hhalts⟩
  · rw [bind_of_ok hrun]
    rcases hf a between with ⟨b, left, hrun', htakes'⟩ | ⟨error, left, hrun', htakes', hhalts⟩
    · exact .inl ⟨b, left, hrun', Nat.zero_add n ▸ htakes.trans htakes'⟩
    · exact .inr ⟨error, left, hrun', htakes.trans htakes', hhalts⟩
  · exact .inr ⟨error, left, bind_of_error hrun, htakes, hhalts⟩

/-- A value that is computed from another takes nothing. -/
theorem Step.map {n : Nat} (hp : Step n p) (g : α → β) : Step n (do return g (← p)) := by
  intro reader
  rcases hp reader with ⟨a, left, hrun, htakes⟩ | ⟨error, left, hrun, htakes, hhalts⟩
  · exact .inl ⟨g a, left, bind_of_ok hrun, htakes⟩
  · exact .inr ⟨error, left, bind_of_error hrun, htakes, hhalts⟩

/-- Looking at the next token finds it, or the failure of the row. -/
theorem peek_cases (reader : Lookahead) : ∃ left, reader.Takes 0 left ∧
    ((∃ token rest, peek reader = .ok token left ∧ left.row = Row.cons token rest) ∨
      ∃ failure, peek reader = .error (.lexical failure) left ∧ left.row 0 = .error failure) := by
  obtain ⟨left, hrun, htakes⟩ := lookAt_takes 0 reader
  refine ⟨left, htakes, ?_⟩
  rw [show reader.row = left.row from (htakes.row_eq.trans (Row.drop_zero _)).symm] at hrun
  rcases left.row.cases with ⟨failure, hrow⟩ | ⟨token, rest, hrow⟩
  · rw [hrow] at hrun
    exact .inr ⟨failure, hrun, hrow⟩
  · rw [hrow] at hrun
    exact .inl ⟨token, rest, hrun, hrow⟩

theorem step_peek : Step 0 peek := by
  intro reader
  obtain ⟨left, htakes, ⟨token, rest, hrun, -⟩ | ⟨failure, hrun, hrow⟩⟩ := peek_cases reader
  · exact .inl ⟨token, left, hrun, htakes⟩
  · exact .inr ⟨.lexical failure, left, hrun, htakes, .lexical hrow⟩

theorem step_peekKind : Step 0 peekKind :=
  step_peek.map (·.kind)

theorem step_check (kind : TokenKind) : Step 0 (check kind) :=
  step_peekKind.map (· == kind)

theorem step_advance : Step 1 advance := by
  intro reader
  obtain ⟨left, hrun, htakes⟩ := advance_takes reader
  cases hrow : reader.row 0 with
  | ok token =>
      rw [hrow] at hrun htakes
      exact .inl ⟨token, left, hrun, htakes⟩
  | error failure =>
      rw [hrow] at hrun htakes
      refine .inr ⟨.lexical failure, left, hrun, htakes, .lexical ?_⟩
      rw [htakes.row_eq]
      exact hrow

/-- Reporting does not succeed, so any number of tokens may be given for that case. -/
theorem step_report (n : Nat) (expected : List TokenKind) : Step n (report expected : Parser α) := by
  intro reader
  obtain ⟨left, htakes, ⟨token, rest, hrun, hrow⟩ | ⟨failure, hrun, hrow⟩⟩ := peek_cases reader
  · refine .inr ⟨.unexpected expected token, left, bind_of_ok hrun, htakes, ?_⟩
    rw [hrow]
    exact .unexpected expected token rest
  · exact .inr ⟨.lexical failure, left, bind_of_error hrun, htakes, .lexical hrow⟩

theorem step_expect (kind : TokenKind) : Step 1 (expect kind) := by
  refine (step_check kind).bind fun holds => ?_
  cases holds
  · exact step_report 1 [kind]
  · exact step_advance

/-! ## Parsers that take no end token -/

/-- **An exact parser** takes no end token. If it fails, it stands in front of what its error is about. -/
def Exact (past : Prop) (p : Parser α) (row : Row) : Prop :=
  ∀ reader : Lookahead, reader.row = row →
    (∀ a left, p reader = .ok a left → ∃ count, reader.Takes count left ∧ row.Inner count) ∧
    ∀ error left, p reader = .error error left →
      ∃ count, reader.Takes count left ∧ row.Inner count ∧ Halts past error left.row

variable {past : Prop}

/-- A step that takes no token, or one that is no end token. -/
theorem Step.exact {n : Nat} (hp : Step n p) (hinner : row.Inner n) : Exact past p row := by
  intro reader _
  rcases hp reader with ⟨a, left, hrun, htakes⟩ | ⟨error, left, hrun, htakes, hhalts⟩
  · rw [hrun]
    refine ⟨?_, nofun⟩
    rintro _ _ ⟨⟩
    exact ⟨n, htakes, hinner⟩
  · rw [hrun]
    refine ⟨nofun, ?_⟩
    rintro _ _ ⟨⟩
    exact ⟨0, htakes, nofun, hhalts.mono False.elim⟩

namespace Exact

theorem pure (a : α) : Exact past (pure a) row :=
  (Step.pure a).exact nofun

theorem report (expected : List TokenKind) : Exact past (report expected : Parser α) row :=
  (step_report 0 expected).exact nofun

/-- **One after the other.** What follows is exact on any row that the first parser can leave. -/
theorem bind (hp : Exact past p row)
    (hf : ∀ reader a left, reader.row = row → p reader = .ok a left → Exact past (f a) left.row) :
    Exact past (p >>= f) row := by
  rintro reader rfl
  refine ⟨fun b left hrun => ?_, fun error left hrun => ?_⟩
  · obtain ⟨a, between, hfirst, hsecond⟩ := bind_ok hrun
    obtain ⟨count, htakes, hinner⟩ := (hp reader rfl).1 a between hfirst
    obtain ⟨count', htakes', hinner'⟩ := (hf reader a between rfl hfirst between rfl).1 b left hsecond
    exact ⟨count + count', htakes.trans htakes', hinner.append (htakes.row_eq ▸ hinner')⟩
  · rcases bind_error hrun with hfirst | ⟨a, between, hfirst, hsecond⟩
    · exact (hp reader rfl).2 error left hfirst
    · obtain ⟨count, htakes, hinner⟩ := (hp reader rfl).1 a between hfirst
      obtain ⟨count', htakes', hinner', hhalts⟩ := (hf reader a between rfl hfirst between rfl).2 error left hsecond
      exact ⟨count + count', htakes.trans htakes', hinner.append (htakes.row_eq ▸ hinner'), hhalts⟩

/-- What follows is exact on every row. -/
theorem andThen (hp : Exact past p row) (hf : ∀ a left, Exact past (f a) left) : Exact past (p >>= f) row :=
  hp.bind fun _ a left _ _ => hf a left.row

/-- What the first parser does to the row is known from its specification. -/
theorem knowing {middle : α → Row → Prop} (hp : Exact past p row)
    (hmeets : Meets p row (fun _ _ => True) middle) (hf : ∀ a left, middle a left → Exact past (f a) left) :
    Exact past (p >>= f) row := by
  refine hp.bind fun reader a left hreader hrun => hf a left.row ?_
  rcases hmeets reader hreader with ⟨_, _, hrun', hmiddle⟩ | ⟨_, _, hrun', -⟩
  · cases hrun.symm.trans hrun'
    exact hmiddle
  · cases hrun.symm.trans hrun'

/-- **Looking at the next token**, and then going on with its kind. -/
theorem peekKind {f : TokenKind → Parser β}
    (hf : ∀ token left, row = Row.cons token left → Exact past (f token.kind) row) :
    Exact past (peekKind >>= f) row := by
  have hstep : Exact past Parser.peekKind row := step_peekKind.exact nofun
  rcases row.cases with ⟨failure, hrow⟩ | ⟨token, left, rfl⟩
  · exact hstep.knowing (Meets.peekKind_failing hrow trivial) fun _ _ => False.elim
  · refine hstep.knowing Meets.peekKind ?_
    rintro _ _ ⟨rfl, rfl⟩
    exact hf token left rfl

/-- **Asking for the kind of the next token**, and then going on with the answer. -/
theorem check {kind : TokenKind} {f : Bool → Parser β}
    (hf : ∀ token left, row = Row.cons token left → Exact past (f (token.kind == kind)) row) :
    Exact past (check kind >>= f) row := by
  have hstep : Exact past (Parser.check kind) row := (step_check kind).exact nofun
  rcases row.cases with ⟨failure, hrow⟩ | ⟨token, left, rfl⟩
  · exact hstep.knowing (Meets.check_failing hrow trivial) fun _ _ => False.elim
  · refine hstep.knowing (Meets.check kind) ?_
    rintro _ _ ⟨rfl, rfl⟩
    exact hf token left rfl

/-- A token that is no end token may be taken. -/
theorem advance {token : Token} {left : Row} (hinner : token.kind ≠ .eof) :
    Exact past advance (Row.cons token left) := by
  refine step_advance.exact fun n hn => ⟨token, ?_, hinner⟩
  obtain rfl := Nat.lt_one_iff.mp hn
  rfl

/-- A kind that is not that of the end token may be expected. -/
theorem expect {kind : TokenKind} (hkind : kind ≠ .eof) : Exact past (expect kind) row := by
  refine .check fun token left hrow => ?_
  by_cases hfound : token.kind = kind
  · rw [beq_iff_eq.mpr hfound, hrow]
    exact .advance (hfound ▸ hkind)
  · rw [beq_false_of_ne hfound]
    exact .report [kind]

/-- **Repetition**, if every round is exact on every row. -/
theorem repeatedly {step : α → Parser (Option α)} {advances : Advances step}
    (hround : ∀ a row, Exact past (step a) row) (a : α) : Exact past (repeatedly step advances a) row := by
  rintro reader rfl
  fun_induction Parser.repeatedly step advances a reader with
  | case1 a reader error left hrun =>
      constructor <;> rintro _ _ ⟨⟩
      exact (hround a reader.row reader rfl).2 error left hrun
  | case2 a reader left hrun =>
      constructor <;> rintro _ _ ⟨⟩
      exact (hround a reader.row reader rfl).1 none left hrun
  | case3 a reader next between hrun ih =>
      -- the rounds that follow begin behind the tokens of this one
      obtain ⟨count, htakes, hinner⟩ := (hround a reader.row reader rfl).1 (some next) between hrun
      rw [htakes.row_eq] at ih
      refine ⟨fun b left hrest => ?_, fun error left hrest => ?_⟩
      · obtain ⟨count', htakes', hinner'⟩ := ih.1 b left hrest
        exact ⟨count + count', htakes.trans htakes', hinner.append hinner'⟩
      · obtain ⟨count', htakes', hinner', hhalts⟩ := ih.2 error left hrest
        exact ⟨count + count', htakes.trans htakes', hinner.append hinner', hhalts⟩

end Exact

/-! ## Parsers that fail exactly -/

/-- **A parser that fails exactly** may take an end token and succeed. If it fails, it has taken none, and stands
    in front of what its error is about. -/
def FailsExactly (past : Prop) (p : Parser α) : Prop :=
  ∀ reader, (∃ a count left, p reader = .ok a left ∧ reader.Takes count left) ∨
    ∃ error count left, p reader = .error error left ∧ reader.Takes count left ∧ reader.row.Inner count ∧
      Halts past error left.row

theorem Step.fails {n : Nat} (hp : Step n p) : FailsExactly past p := by
  intro reader
  rcases hp reader with ⟨a, left, hrun, htakes⟩ | ⟨error, left, hrun, htakes, hhalts⟩
  · exact .inl ⟨a, n, left, hrun, htakes⟩
  · exact .inr ⟨error, 0, left, hrun, htakes, nofun, hhalts.mono False.elim⟩

theorem Exact.fails (hp : ∀ row, Exact past p row) : FailsExactly past p := by
  intro reader
  cases hrun : p reader with
  | ok a left =>
      obtain ⟨count, htakes, -⟩ := (hp reader.row reader rfl).1 a left hrun
      exact .inl ⟨a, count, left, rfl, htakes⟩
  | error error left =>
      obtain ⟨count, htakes, hinner, hhalts⟩ := (hp reader.row reader rfl).2 error left hrun
      exact .inr ⟨error, count, left, rfl, htakes, hinner, hhalts⟩

/-- A value that is computed from another makes no difference. -/
theorem FailsExactly.map (hp : FailsExactly past p) (g : α → β) : FailsExactly past (do return g (← p)) := by
  intro reader
  rcases hp reader with ⟨a, count, left, hrun, htakes⟩ | ⟨error, count, left, hrun, hfails⟩
  · exact .inl ⟨g a, count, left, bind_of_ok hrun, htakes⟩
  · exact .inr ⟨error, count, left, bind_of_error hrun, hfails⟩

/-- Behind an exact parser there may be one that fails exactly. -/
theorem FailsExactly.bind (hp : ∀ row, Exact past p row) (hf : ∀ a, FailsExactly past (f a)) :
    FailsExactly past (p >>= f) := by
  intro reader
  cases hrun : p reader with
  | ok a between =>
      rw [bind_of_ok hrun]
      obtain ⟨count, htakes, hinner⟩ := (hp reader.row reader rfl).1 a between hrun
      rcases hf a between with ⟨b, count', left, hrun', htakes'⟩ | ⟨error, count', left, hrun', htakes', hinner', hhalts⟩
      · exact .inl ⟨b, count + count', left, hrun', htakes.trans htakes'⟩
      · refine .inr ⟨error, count + count', left, hrun', htakes.trans htakes', hinner.append ?_, hhalts⟩
        rwa [← htakes.row_eq]
  | error error left =>
      rw [bind_of_error hrun]
      obtain ⟨count, htakes, hinner, hhalts⟩ := (hp reader.row reader rfl).2 error left hrun
      exact .inr ⟨error, count, left, rfl, htakes, hinner, hhalts⟩

end Parser

end ModuleLang
