import ModuleLang.Proofs.Language.Automaton
import ModuleLang.Proofs.Parser.Logic
import ModuleLang.Proofs.Tree.Covering

/-!
# `Proofs.Parser.Trail` — how far a parser has come

While a parser runs, the tokens that it has taken lead to some place in the grammar, and the rest of the row
is still in front of it. This is the invariant of all rules. A parser that fails does so at such a place too,
and the place says why.

## Contents
- **`Trail`**: tokens taken off a row, and the place in the grammar that they lead to.
- **`Listed`**: the kinds that a syntax error lists at a place.
- **`Faults`**: the ways to fail. Either the next token has no place in the grammar here, and the kinds that
  were expected are those that are listed; or the row itself fails here, or behind an identifier that a
  statement begins with.
- **`Trail.expect`**: where the grammar has one kind only, a parser that expects this kind keeps the trail.
-/

namespace ModuleLang.Parser

open Grammar

/-- **A trail.** Taking `taken` off the row `origin` leaves the row `left`, and leads from one place of the
    grammar to another. -/
structure Trail (start : Place) (origin : Row) (taken : List Token) (place : Place) (left : Row) :
    Prop where
  /-- The tokens taken and the row that is left are the whole row. -/
  row_eq : origin = taken.foldr Row.cons left
  /-- The kinds of the tokens lead to the place. -/
  run_eq : start.run (kindsOf taken) = some place

variable {start place next : Place} {origin row left : Row} {taken : List Token} {token : Token}

theorem Trail.nil : Trail start origin [] start origin :=
  ⟨rfl, rfl⟩

/-- One token more. -/
theorem Trail.take (h : Trail start origin taken place (Row.cons token left))
    (hstep : place.step token.kind = some next) : Trail start origin (taken ++ [token]) next left := by
  constructor
  · rw [List.foldr_append]
    exact h.row_eq
  · rw [kindsOf_append, Place.run_append, h.run_eq, Option.bind_some]
    exact congrArg (Option.bind · fun next => some next) hstep

/-- **What a syntax error lists** at a place: the kinds that can stand there. Behind an identifier that a
    statement begins with, the equals sign can stand too, but is left out: the parser has looked past the
    identifier before it took it, and has taken it for a term. -/
def Listed (place : Place) (kind : TokenKind) : Prop :=
  (place.step kind).isSome ∧ ¬ (place = .named ∧ kind = .equals)

instance (place : Place) (kind : TokenKind) : Decidable (Listed place kind) :=
  inferInstanceAs (Decidable (_ ∧ _))

/-- Where the grammar has one kind only, this kind is listed. -/
theorem listed_single {kind other : TokenKind} (h : place.Single kind next) :
    other ∈ [kind] ↔ Listed place other := by
  rw [List.mem_singleton]
  cases h <;> cases other <;> decide

/-- Where something is listed, a sentence is not at its end. -/
theorem ne_finished_of_listed {expected : List TokenKind} (hsome : expected ≠ [])
    (hexpected : ∀ kind, kind ∈ expected ↔ Listed place kind) : place ≠ .finished := by
  rintro rfl
  obtain ⟨kind, hmem⟩ := List.exists_mem_of_ne_nil expected hsome
  have hkind := ((hexpected kind).mp hmem).1
  rw [Place.step_finished] at hkind
  cases hkind

/-- **The ways to fail.** Each leaves the row at the place where the parser stopped. -/
inductive Faults (start : Place) (origin : Row) : ParseError → Row → Prop where
  /-- The next token cannot stand here, and the expected kinds are those that are listed here. -/
  | unexpected {taken : List Token} {place : Place} {expected : List TokenKind} {found : Token}
      {left : Row} : Trail start origin taken place (Row.cons found left) →
      place.step found.kind = none → expected ≠ [] →
      (∀ kind, kind ∈ expected ↔ Listed place kind) →
      Faults start origin (.unexpected expected found) (Row.cons found left)
  /-- The row fails here. -/
  | lexical {taken : List Token} {place : Place} {failure : LexError} {left : Row} :
      Trail start origin taken place left → left 0 = .error failure →
      Faults start origin (.lexical failure) left
  /-- The row fails behind an identifier that a statement begins with. The identifier stays. -/
  | behindName {taken : List Token} {name : Token} {failure : LexError} {left : Row} :
      Trail start origin taken .listing (Row.cons name left) → name.kind = .identifier →
      left 0 = .error failure → Faults start origin (.lexical failure) (Row.cons name left)

/-- **Expecting the only kind that there is.** A token of the kind is taken, and any other is a fault. -/
theorem Trail.expect {β : Type} {kind : TokenKind} {f : Token → Parser β} {good : β → Row → Prop}
    (h : Trail start origin taken place row) (hsingle : place.Single kind next)
    (hf : ∀ token left, token.kind = kind → Trail start origin (taken ++ [token]) next left →
      Meets (f token) left (Faults start origin) good) :
    Meets (Parser.expect kind >>= f) row (Faults start origin) good := by
  rcases row.cases with ⟨failure, hrow⟩ | ⟨token, left, rfl⟩
  · exact .stop (.expect_failing hrow (.lexical h hrow))
  · -- where one kind leads on, the token has this kind or is a fault
    by_cases hkind : token.kind = kind
    · exact (Meets.expect hkind).next (hf token left hkind (h.take (hkind ▸ hsingle.step_eq)))
    · refine .stop (.expect_other hkind ?_)
      exact .unexpected h (hsingle.step_other hkind) (List.cons_ne_nil _ _) fun _ => listed_single hsingle

end ModuleLang.Parser
