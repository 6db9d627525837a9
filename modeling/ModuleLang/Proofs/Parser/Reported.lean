import ModuleLang.Parser.Grammar
import ModuleLang.Proofs.Parser.Rules
import ModuleLang.Proofs.Token.Truth

/-!
# `Proofs.Parser.Reported` — every reported position is true

Tokens come from the text through a queue, and some end up in a tree or in an error. On none of these ways a token is
made or changed: whatever a reader or a parser hands out is an answer in the row of its text. So what is true of the
row is true of all that is ever handed out.

## Contents
- **`Expr.tokens`**, **`Module.tokens`**: the tokens that a tree keeps, in the order of the text.
- **`Interface`**: what can be asked of a reader, what an answer shows and what an error is about. There are two,
  `Interface.reader` and `Interface.parser`.
- **Honest interfaces** (`Interface.Honest`): a request shows answers of the row only, and takes the tokens in front.
  Both interfaces are honest (`reader_honest`, `parser_honest`), which is shown request by request (`Parser.shown`).
- **Sessions** (`Interface.Honest.session`), by induction on the requests, and what is true of them
  (`Interface.TrueOn`).
- **Whole sources** (`TrueOutcome`): what scanning and parsing give.
- **`positions_true`**: all that is ever reported for a source is true, and tokens do not overlap.
-/

namespace ModuleLang

/-! ## Tokens in trees -/

/-- The token that is kept from a place of a row. -/
def Symbol.kept? : Symbol → Option Token
  | token kept => some kept
  | mark _ => none

/-- The tokens that an expression keeps. -/
def Expr.tokens (expr : Expr) : List Token :=
  expr.yield.filterMap Symbol.kept?

/-- The tokens that a module keeps. -/
def Module.tokens (m : Module) : List Token :=
  m.yield.filterMap Symbol.kept?

/-- What is kept from a row are some of its tokens, in their order. -/
theorem Spells.kept_sublist {symbols : List Symbol} {tokens : List Token} (h : Spells symbols tokens) :
    (symbols.filterMap Symbol.kept?).Sublist tokens := by
  induction h with
  | nil => exact .slnil
  | @cons symbol token _ _ hmatches _ ih =>
      cases symbol with
      | token kept =>
          cases show token = kept from hmatches
          exact ih.cons_cons token
      | mark kind => exact ih.cons token

theorem Expr.Covers.tokens_sublist {expr : Expr} {tokens : List Token} (h : expr.Covers tokens) :
    expr.tokens.Sublist tokens :=
  (covers_iff.mp h).2.kept_sublist

theorem Module.Covers.tokens_sublist {m : Module} {tokens : List Token} (h : m.Covers tokens) :
    m.tokens.Sublist tokens :=
  (covers_iff.mp h).2.kept_sublist

/-! ## Interfaces -/

/-- What an error is about: the bad character, or the token that was found. -/
def ParseError.culprit : ParseError → Except LexError Token
  | lexical cause => .error cause
  | unexpected _ found => .ok found

/-- **An interface**: requests to a reader, and what can be seen of the reader in the answers. -/
structure Interface (ε ρ α : Type) where
  /-- Performs a request. -/
  perform : ρ → EStateM ε Lookahead α
  /-- The tokens in an answer, in the order of the text. -/
  tokens : α → List Token
  /-- Whether a request takes the tokens of its answer, and does not only look at them. -/
  consumes : ρ → Bool
  /-- What an error is about. -/
  culprit : ε → Except LexError Token

namespace Interface

/-- The operations of a lookahead reader. -/
def reader : Interface LexError Lookahead.Request Lookahead.Answer where
  perform := Lookahead.perform
  tokens
    | .token token => [token]
    | .tokens tokens => tokens
  consumes
    | .next => true
    | .peek | .peekNth _ | .peekUntil _ => false
  culprit := .error

/-- The steps of a parser. -/
def parser : Interface ParseError Parser.Request Parser.Answer where
  perform := Parser.perform
  tokens
    | .token token => [token]
    | .verdict _ => []
    | .expression expr => expr.tokens
    | .wholeModule m => m.tokens
  consumes
    | .advance | .expect _ | .expression | .wholeModule => true
    | .peek | .check _ | .report _ => false
  culprit := ParseError.culprit

variable {ε ρ α : Type} (face : Interface ε ρ α) {request : ρ} {row left : Row} {taken : List Token}

/-- What an answer reports. -/
def reports : Except ε α → List (Except LexError Token)
  | .ok value => (face.tokens value).map .ok
  | .error error => [face.culprit error]

/-- The tokens that a request takes and hands out. -/
def handed (request : ρ) : Except ε α → List Token
  | .ok value => if face.consumes request then face.tokens value else []
  | .error _ => []

/-- The tokens that the requests of a session take and hand out. -/
def consumed : List ρ → List (Except ε α) → List Token
  | request :: requests, answer :: answers => face.handed request answer ++ consumed requests answers
  | _, _ => []

/-- **What a request shows** of a row. It takes some tokens off it, and what it hands out are some of these; and all
    that its answer reports are answers of the row. -/
def Shows (request : ρ) (row : Row) (answer : Except ε α) (left : Row) : Prop :=
  ∃ taken : List Token, row = taken.foldr Row.cons left ∧ (face.handed request answer).Sublist taken ∧
    ∀ report ∈ face.reports answer, ∃ n, row n = report

/-- **An honest interface** shows the row in front of the reader, whatever is requested. -/
def Honest : Prop :=
  ∀ request reader, ∃ answer left, face.perform request reader = conclude answer left ∧
    face.Shows request reader.row answer left.row

/-- An answer with some of the tokens that are taken. -/
theorem shows_taken (taken : List Token) {value : α} (hrow : row = taken.foldr Row.cons left)
    (htokens : (face.tokens value).Sublist taken) : face.Shows request row (.ok value) left := by
  refine ⟨taken, hrow, ?_, fun report hmem => ?_⟩
  · show (if face.consumes request then face.tokens value else []).Sublist taken
    split
    case isTrue => exact htokens
    case isFalse => exact List.nil_sublist taken
  · obtain ⟨token, htoken, rfl⟩ := List.mem_map.mp hmem
    obtain ⟨n, hn, rfl⟩ := List.mem_iff_getElem.mp (htokens.subset htoken)
    refine ⟨n, ?_⟩
    rw [hrow]
    exact Row.foldr_cons_lt hn

/-- An answer with tokens that are not taken. -/
theorem shows_seen {value : α} (hlooks : face.consumes request = false)
    (hseen : ∀ token ∈ face.tokens value, ∃ n, row n = .ok token) : face.Shows request row (.ok value) row := by
  refine ⟨[], rfl, ?_, fun report hmem => ?_⟩
  · show (if face.consumes request then face.tokens value else []).Sublist []
    rw [hlooks]
    exact .slnil
  · obtain ⟨token, htoken, rfl⟩ := List.mem_map.mp hmem
    exact hseen token htoken

/-- An error about an answer of the row that is left. -/
theorem shows_error (taken : List Token) {error : ε} {n : Nat} (hrow : row = taken.foldr Row.cons left)
    (hculprit : left n = face.culprit error) : face.Shows request row (.error error) left := by
  refine ⟨taken, hrow, List.nil_sublist taken, fun report hmem => ?_⟩
  obtain rfl := List.mem_singleton.mp hmem
  refine ⟨taken.length + n, ?_⟩
  rw [hrow, Row.foldr_cons_add]
  exact hculprit

end Interface

/-! ## The reader -/

/-- A look at one place of the row. -/
theorem shows_look {request : Lookahead.Request} (hlooks : Interface.reader.consumes request = false) (row : Row)
    (n : Nat) : Interface.reader.Shows request row ((row n).map .token) row := by
  cases hrow : row n with
  | ok token =>
      refine Interface.reader.shows_seen hlooks fun seen hmem => ⟨n, ?_⟩
      rw [List.mem_singleton.mp hmem]
      exact hrow
  | error failure => exact Interface.reader.shows_error [] rfl hrow

/-- **A reader is honest.** -/
theorem reader_honest : Interface.reader.Honest := by
  intro request reader
  obtain ⟨reply, left, hperform, hreplies, hleft⟩ := Lookahead.perform_row request reader
  refine ⟨reply, left, hperform, ?_⟩
  cases hreplies with
  | next =>
      rcases reader.row.cases with ⟨failure, hrow⟩ | ⟨token, rest, hrow⟩
      · rw [hrow] at hleft ⊢
        have hstays : left.row = reader.row := hleft.trans (Row.drop_zero _)
        rw [hstays]
        exact Interface.reader.shows_error [] rfl hrow
      · rw [hrow] at hleft ⊢
        have hrest : left.row = rest := hleft.trans (Row.drop_one_cons token rest)
        rw [hrest]
        exact Interface.reader.shows_taken [token] rfl (.refl _)
  | peek =>
      have hstays : left.row = reader.row := hleft.trans (Row.drop_zero _)
      rw [hstays]
      exact shows_look rfl reader.row 0
  | peekNth n =>
      have hstays : left.row = reader.row := hleft.trans (Row.drop_zero _)
      rw [hstays]
      exact shows_look rfl reader.row n
  | peekUntil hsees =>
      have hstays : left.row = reader.row := hleft.trans (Row.drop_zero _)
      rw [hstays]
      cases hsees with
      | @found place last tokens _ _ _ _ hseen =>
          refine Interface.reader.shows_seen rfl fun token hmem => ?_
          obtain ⟨n, hn, rfl⟩ := List.mem_iff_getElem.mp hmem
          exact ⟨n, hseen n hn⟩
      | failed _ hfailure => exact Interface.reader.shows_error [] rfl hfailure

/-! ## The parser -/

namespace Parser

variable {request : Request} {row left : Row}

/-- A fault is about an answer of the row that is left. -/
theorem Faults.shows {start : Grammar.Place} {error : ParseError} (h : Faults start row error left) :
    Interface.parser.Shows request row (.error error) left := by
  cases h with
  | @unexpected taken _ _ _ _ htrail _ _ _ => exact Interface.parser.shows_error (n := 0) taken htrail.row_eq rfl
  | @lexical taken _ _ _ htrail hfailure => exact Interface.parser.shows_error taken htrail.row_eq hfailure
  | @behindName taken _ _ _ htrail _ hfailure =>
      -- the failure stands behind the identifier, which is not taken
      exact Interface.parser.shows_error (n := 1) taken htrail.row_eq hfailure

/-- A step meets its specification by what it shows of the row. -/
def Shown (request : Request) (row : Row) : Prop :=
  Meets (perform request) row (fun error left => Interface.parser.Shows request row (.error error) left)
    fun answer left => Interface.parser.Shows request row (.ok answer) left

/-- An expression keeps tokens that were taken. -/
theorem shown_expression (row : Row) : Shown .expression row := by
  have htrail : Trail .wanting row [] .wanting row := .nil
  refine ((meets_expression htrail).weaken fun error left hfaults => hfaults.shows).bind ?_
  rintro expr left ⟨⟨tokens, place, hread, -, hcovers⟩, -⟩
  exact .pure (Interface.parser.shows_taken tokens hread.row_eq hcovers.tokens_sublist)

/-- A module keeps tokens that were taken. -/
theorem shown_wholeModule (row : Row) : Shown .wholeModule row := by
  refine ((meets_wholeModule row).weaken fun error left hfaults => hfaults.shows).bind ?_
  rintro m left ⟨tokens, hread, hcovers⟩
  exact .pure (Interface.parser.shows_taken tokens hread.row_eq hcovers.tokens_sublist)

/-- **Every step** shows the row that it is performed on. -/
theorem shown (request : Request) (row : Row) : Shown request row := by
  have hfails {request : Request} {failure : LexError} (hrow : row 0 = .error failure) :
      Interface.parser.Shows request row (.error (.lexical failure)) row :=
    Interface.parser.shows_error [] rfl hrow
  cases request with
  | peek =>
      rcases row.cases with ⟨failure, hrow⟩ | ⟨token, left, rfl⟩
      · exact .stop (.lookAt_failing hrow (hfails hrow))
      · refine (Meets.lookAt (Row.cons_zero token left)).next (.pure ?_)
        refine Interface.parser.shows_seen rfl fun seen hmem => ⟨0, ?_⟩
        rw [List.mem_singleton.mp hmem]
        exact Row.cons_zero token left
  | advance =>
      rcases row.cases with ⟨failure, hrow⟩ | ⟨token, left, rfl⟩
      · exact .stop (.advance_failing hrow (hfails hrow))
      · exact Meets.advance.next (.pure (Interface.parser.shows_taken [token] rfl (.refl _)))
  | check kind =>
      rcases row.cases with ⟨failure, hrow⟩ | ⟨token, left, rfl⟩
      · exact .stop (.check_failing hrow (hfails hrow))
      · exact (Meets.check kind).next (.pure (Interface.parser.shows_seen rfl nofun))
  | expect kind =>
      rcases row.cases with ⟨failure, hrow⟩ | ⟨token, left, rfl⟩
      · exact .stop (.expect_failing hrow (hfails hrow))
      · by_cases hkind : token.kind = kind
        · exact (Meets.expect hkind).next (.pure (Interface.parser.shows_taken [token] rfl (.refl _)))
        · exact .stop (.expect_other hkind (Interface.parser.shows_error (n := 0) [] rfl rfl))
  | report expected =>
      rcases row.cases with ⟨failure, hrow⟩ | ⟨token, left, rfl⟩
      · exact .stop (.lookAt_failing hrow (hfails hrow))
      · exact .report (Interface.parser.shows_error (n := 0) [] rfl rfl)
  | expression => exact shown_expression row
  | wholeModule => exact shown_wholeModule row

end Parser

/-- **A parser is honest.** -/
theorem parser_honest : Interface.parser.Honest := by
  intro request reader
  rcases Parser.shown request reader.row reader rfl with ⟨answer, left, hrun, hshows⟩ | ⟨error, left, hrun, hshows⟩
  · exact ⟨.ok answer, left, hrun, hshows⟩
  · exact ⟨.error error, left, hrun, hshows⟩

/-! ## Sessions -/

namespace Interface

variable {ε ρ α : Type} {face : Interface ε ρ α}

/-- **A session** with an honest interface shows answers of the row only, and takes the tokens in front of it. -/
theorem Honest.session (h : face.Honest) (requests : List ρ) (reader : Lookahead) :
    let outcome := session face.perform reader requests
    ∃ taken : List Token, reader.row = taken.foldr Row.cons outcome.2.row ∧
      (face.consumed requests outcome.1).Sublist taken ∧
      ∀ answer ∈ outcome.1, ∀ report ∈ face.reports answer, ∃ n, reader.row n = report := by
  induction requests generalizing reader with
  | nil => exact ⟨[], rfl, .slnil, nofun⟩
  | cons request requests ih =>
      obtain ⟨answer, between, hperform, first, hrow, hhanded, hreports⟩ := h request reader
      obtain ⟨more, hrow', hconsumed, hreports'⟩ := ih between
      rw [session_conclude hperform]
      refine ⟨first ++ more, ?_, hhanded.append hconsumed, ?_⟩
      · rw [List.foldr_append, ← hrow']
        exact hrow
      · refine List.forall_mem_cons.mpr ⟨hreports, fun answer' hmem report hreport => ?_⟩
        -- the answers that follow count from behind the tokens of this request
        obtain ⟨n, hn⟩ := hreports' answer' hmem report hreport
        refine ⟨first.length + n, ?_⟩
        rw [hrow, Row.foldr_cons_add]
        exact hn

/-- **Truth of a session** on a source. -/
structure TrueOn (face : Interface ε ρ α) (source : String) (requests : List ρ) : Prop where
  /-- All that is reported is true. -/
  reports : ∀ answer ∈ (ModuleLang.session face.perform (.ofSource source) requests).1,
    ∀ report ∈ face.reports answer, TrueReport source.toList report
  /-- The tokens that were taken are tokens of the source, in their order and without overlap, and those that were
      handed out when they were taken are some of these. -/
  apart : ∃ taken : List Token,
    (Cursor.ofSource source).row =
      taken.foldr Row.cons (ModuleLang.session face.perform (.ofSource source) requests).2.row ∧
    (face.consumed requests (ModuleLang.session face.perform (.ofSource source) requests).1).Sublist taken ∧
    taken.Pairwise Token.Precedes

theorem Honest.trueOn (h : face.Honest) (source : String) (requests : List ρ) : face.TrueOn source requests := by
  obtain ⟨taken, hrow, hconsumed, hreports⟩ := h.session requests (.ofSource source)
  rw [Lookahead.row_ofSource] at hrow hreports
  refine ⟨fun answer hmem report hreport => ?_, taken, hrow, hconsumed, Cursor.pairwise_precedes hrow⟩
  obtain ⟨n, rfl⟩ := hreports answer hmem report hreport
  exact Cursor.row_trueReport source n

end Interface

/-! ## Whole sources -/

variable {ε α : Type} {source : String}

/-- **Truth of an outcome** for a source: the tokens of a value are true and do not overlap, and what an error is
    about is true. -/
def TrueOutcome (source : String) (tokens : α → List Token) (culprit : ε → Except LexError Token) :
    Except ε α → Prop
  | .ok value => (∀ token ∈ tokens value, token.TrueIn source.toList) ∧ (tokens value).Pairwise Token.Precedes
  | .error error => TrueReport source.toList (culprit error)

/-- Tokens that were taken in front of a row are true, and so are some of them. -/
theorem trueOutcome_ok {tokens : α → List Token} {culprit : ε → Except LexError Token} {value : α}
    {taken : List Token} {left : Row} (hrow : (Cursor.ofSource source).row = taken.foldr Row.cons left)
    (htokens : (tokens value).Sublist taken) : TrueOutcome source tokens culprit (.ok value) := by
  refine ⟨fun token hmem => ?_, (Cursor.pairwise_precedes hrow).sublist htokens⟩
  obtain ⟨n, hn, rfl⟩ := List.mem_iff_getElem.mp (htokens.subset hmem)
  have htrue := Cursor.row_trueReport source n
  rw [hrow, Row.foldr_cons_lt hn] at htrue
  exact htrue

/-- An error about an answer of the row is true. -/
theorem trueOutcome_error {tokens : α → List Token} {culprit : ε → Except LexError Token} {error : ε} {n : Nat}
    (h : (Cursor.ofSource source).row n = culprit error) : TrueOutcome source tokens culprit (.error error) := by
  have htrue := Cursor.row_trueReport source n
  rw [h] at htrue
  exact htrue

/-- Scanning gives true tokens, or a true failure. -/
theorem scan_trueOutcome (source : String) : TrueOutcome source id .error (scan source) := by
  have hrow : (Cursor.ofSource source).row =
      (TokenStream.ofSource source).tokens.foldr Row.cons fun _ => (TokenStream.ofSource source).ending :=
    (Cursor.row_eq_nth _).trans (TokenStream.nth_eq_foldr _)
  cases hscan : scan source with
  | ok tokens =>
      obtain ⟨last, hending, rfl⟩ := scan_eq_ok_iff.mp hscan
      rw [hending] at hrow
      -- the end token is handed out again and again, and one of them belongs to the tokens
      have hlast : (fun _ => .ok last) = Row.cons last fun _ => .ok last := by
        funext n
        cases n <;> rfl
      rw [hlast] at hrow
      have hbegins : (Cursor.ofSource source).row =
          ((TokenStream.ofSource source).tokens ++ [last]).foldr Row.cons fun _ => .ok last := by
        rw [hrow, List.foldr_append]
        rfl
      exact trueOutcome_ok hbegins (.refl _)
  | error failure =>
      have hfailure : (Cursor.ofSource source).row (TokenStream.ofSource source).tokens.length = .error failure := by
        rw [hrow, ← scan_eq_error_iff.mp hscan]
        exact Row.foldr_cons_add _ _ 0
      exact trueOutcome_error hfailure

/-- Parsing gives a tree of true tokens, or an error about something true. -/
theorem parse_trueOutcome (source : String) :
    TrueOutcome source Module.tokens ParseError.culprit (parse source) := by
  rcases parse_cases source with ⟨m, tokens, left, hparse, htrail, hcovers⟩ | ⟨error, left, hparse, hfaults⟩
  · rw [hparse]
    exact trueOutcome_ok htrail.row_eq hcovers.tokens_sublist
  · rw [hparse]
    have hshows : Interface.parser.Shows .wholeModule (Cursor.ofSource source).row (.error error) left := hfaults.shows
    obtain ⟨-, -, -, hreports⟩ := hshows
    obtain ⟨n, hn⟩ := hreports _ (List.mem_singleton.mpr rfl)
    exact trueOutcome_error hn

/-- **Every reported position is true.** Whatever is asked of a reader or of a parser on a source, in any order and
    behind failures too, and whatever scanning or parsing the source gives: each token and each error has a location
    that can be counted in the source, with its own characters behind it, and end tokens stand at the end of the
    source. Tokens are taken in the order of the source, and no two of them overlap. -/
theorem positions_true (source : String) :
    (∀ requests, Interface.reader.TrueOn source requests) ∧
    (∀ steps, Interface.parser.TrueOn source steps) ∧
    TrueOutcome source id .error (scan source) ∧
    TrueOutcome source Module.tokens ParseError.culprit (parse source) :=
  ⟨reader_honest.trueOn source, parser_honest.trueOn source, scan_trueOutcome source, parse_trueOutcome source⟩

/-- On the third line, an equals sign where a name was expected, and a character that begins no token behind it. -/
theorem positions_true_on_third_line :
    let source := "module m\x7b\n var\n  = #"
    let equals : Token := ⟨.equals, "=", ⟨2, 2, 17⟩⟩
    let bad : LexError := ⟨'#', ⟨2, 4, 19⟩⟩
    parse source = .error (.unexpected [.identifier] equals) ∧ equals.TrueIn source.toList ∧
      scan source = .error bad ∧ bad.TrueIn source.toList := by
  intro source equals bad
  have hparse : parse source = .error (.unexpected [.identifier] equals) := by decide +kernel
  have hscan : scan source = .error bad := by decide +kernel
  obtain ⟨-, -, hscanned, hparsed⟩ := positions_true source
  rw [hscan] at hscanned
  rw [hparse] at hparsed
  exact ⟨hparse, hparsed, hscan, hscanned⟩

end ModuleLang
