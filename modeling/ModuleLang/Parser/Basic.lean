import ModuleLang.Diagnostic.Error
import ModuleLang.Session
import ModuleLang.Token.Lookahead

/-!
# `Parser.Basic` — steps of a parser

A parser takes tokens from a lookahead reader and either gives a value or fails. In both cases it leaves
the reader at a definite place, so that other steps can follow a failure.

## Contents
- **`Parser`**: a step on a reader.
- **Looking.** `peek`, `peekKind`, `check` take no token, though they may queue some.
- **Taking.** `advance` takes whatever comes next, `expect` only a token of the given kind.
- **Failing.** `report` fails at the next token and leaves it in place.
- **Repeating.** `repeatedly` runs a step until it has no more to give. The step has to take a token in
  every round (`Advances`), so the repetition ends. `Steady` steps add no tokens, and to take one that was
  looked at is to advance (`size_advance_lt`).
-/

namespace ModuleLang

/-- A parser: a step on a reader that gives a value or fails. -/
abbrev Parser := EStateM ParseError Lookahead

namespace Parser

variable {α β : Type}

/-! ## Steps -/

/-- The token `n` places behind the next one. It stays in place. -/
def lookAt (n : Nat) : Parser Token :=
  (Lookahead.peekNth n).adaptExcept .lexical

/-- The next token, which stays in place. -/
def peek : Parser Token :=
  lookAt 0

/-- The kind of the next token. -/
def peekKind : Parser TokenKind :=
  return (← peek).kind

/-- Takes the next token. At the end of the source there is always one more end token. -/
def advance : Parser Token :=
  Lookahead.next.adaptExcept .lexical

/-- Whether the next token has the given kind. -/
def check (kind : TokenKind) : Parser Bool :=
  return (← peekKind) == kind

/-- Fails at the next token, which stays in place. -/
def report (expected : List TokenKind) : Parser α := do
  throw (.unexpected expected (← peek))

/-- Takes the next token if it has the given kind, and fails at it otherwise. -/
def expect (kind : TokenKind) : Parser Token := do
  if ← check kind then advance else report [kind]

/-! ## Steps that come no further from the end -/

theorem lookAt_ok {n : Nat} {token : Token} {reader left : Lookahead}
    (h : lookAt n reader = .ok token left) : Lookahead.peekNth n reader = .ok token left := by
  unfold lookAt EStateM.adaptExcept at h
  split at h
  case h_1 => cases h
  case h_2 hpeek =>
    cases h
    exact hpeek

theorem advance_ok {token : Token} {reader left : Lookahead}
    (h : advance reader = .ok token left) : Lookahead.next reader = .ok token left := by
  unfold advance EStateM.adaptExcept at h
  split at h
  case h_1 => cases h
  case h_2 hnext =>
    cases h
    exact hnext

/-- A step that, when it succeeds, leaves no more tokens than there were. -/
def Steady (p : Parser α) : Prop :=
  ∀ reader a left, p reader = .ok a left → left.size ≤ reader.size

theorem Steady.pure (a : α) : Steady (pure a) := by
  intro reader a left h
  cases h
  exact Nat.le_refl _

theorem Steady.bind {p : Parser α} {f : α → Parser β} (hp : Steady p) (hf : ∀ a, Steady (f a)) :
    Steady (p >>= f) := by
  intro reader b left h
  obtain ⟨a, between, hfirst, hsecond⟩ := bind_ok h
  exact Nat.le_trans (hf a _ _ _ hsecond) (hp _ _ _ hfirst)

theorem steady_lookAt (n : Nat) : Steady (lookAt n) := fun _ _ _ h =>
  Lookahead.size_peekNth (lookAt_ok h)

theorem steady_peekKind : Steady peekKind :=
  (steady_lookAt 0).bind fun _ => .pure _

theorem steady_check (kind : TokenKind) : Steady (check kind) :=
  steady_peekKind.bind fun _ => .pure _

theorem steady_advance : Steady advance := fun _ _ _ h =>
  Lookahead.size_next (advance_ok h)

theorem report_ne_ok {expected : List TokenKind} {a : α} {reader left : Lookahead} :
    report expected reader ≠ .ok a left := by
  intro h
  obtain ⟨_, _, _, hthrow⟩ := bind_ok h
  cases hthrow

theorem steady_report (expected : List TokenKind) : Steady (report expected : Parser α) :=
  fun _ _ _ h => absurd h report_ne_ok

theorem Steady.ite {p q : Parser α} (hp : Steady p) (hq : Steady q) (holds : Bool) :
    Steady (if holds then p else q) := by
  cases holds
  · exact hq
  · exact hp

theorem steady_expect (kind : TokenKind) : Steady (expect kind) :=
  (steady_check kind).bind fun _ => .ite steady_advance (steady_report _) _

/-! ## Taking a token that was looked at -/

theorem peekKind_ok {kind : TokenKind} {reader left : Lookahead}
    (h : peekKind reader = .ok kind left) :
    ∃ token, Lookahead.peekNth 0 reader = .ok token left ∧ token.kind = kind := by
  obtain ⟨token, between, hpeek, hpure⟩ := bind_ok h
  cases hpure
  exact ⟨token, lookAt_ok hpeek, rfl⟩

theorem check_ok {kind : TokenKind} {reader left : Lookahead}
    (h : check kind reader = .ok true left) : peekKind reader = .ok kind left := by
  obtain ⟨found, between, hpeek, hpure⟩ := bind_ok h
  injection hpure with hkind hleft
  rw [beq_iff_eq] at hkind
  rw [← hkind, ← hleft, hpeek]

/-- Whoever looks at a token and takes it comes closer to the end, unless it is the end token. -/
theorem size_advance_lt {kind : TokenKind} {token : Token} {reader seen left : Lookahead}
    (hpeek : peekKind reader = .ok kind seen) (hinner : kind ≠ .eof)
    (htake : advance seen = .ok token left) : left.size < reader.size := by
  obtain ⟨first, hfirst, rfl⟩ := peekKind_ok hpeek
  exact Lookahead.size_next_lt hfirst hinner (advance_ok htake)

/-! ## Repetition -/

/-- A step that comes closer to the end whenever it asks for another round. -/
def Advances (step : α → Parser (Option α)) : Prop :=
  ∀ a next reader left, step a reader = .ok (some next) left → left.size < reader.size

/-- Runs a step on a value again and again, each time on what the round before gave, until a round gives
    nothing. The value is then what the last round but one gave. -/
def repeatedly (step : α → Parser (Option α)) (advances : Advances step) (a : α) : Parser α :=
  fun reader =>
    match _round : step a reader with
    | .error error left => .error error left
    | .ok none left => .ok a left
    | .ok (some next) left => repeatedly step advances next left
termination_by reader => reader.size
decreasing_by exact advances _ _ _ _ _round

theorem steady_repeatedly {step : α → Parser (Option α)} (hsteady : ∀ a, Steady (step a))
    (advances : Advances step) (a : α) : Steady (repeatedly step advances a) := by
  intro reader result left h
  fun_induction Parser.repeatedly step advances a reader with
  | case1 => cases h
  | case2 a reader left hround =>
    cases h
    exact hsteady _ _ _ _ hround
  | case3 a reader next left hround ih => exact Nat.le_trans (ih h) (hsteady _ _ _ _ hround)

end Parser

end ModuleLang
