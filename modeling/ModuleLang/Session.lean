/-!
# `Session` — runs of requests to one reader

A reader keeps a state between requests, and a request that fails leaves a state too. A session puts
requests to one reader, one after the other, whether they succeed or fail.

## Contents
- **`session`**: the answers to a list of requests, and the state behind them.
- **Sequences** of two operations: what they do (`bind_of_ok`, `bind_of_error`), and what was done if they succeeded or
  failed (`bind_ok`, `bind_error`).
-/

namespace ModuleLang

/-- The answers to requests, each performed in the state that the one before it left, and the state that
    is left in the end. -/
def session {ε σ ρ α : Type} (perform : ρ → EStateM ε σ α) : σ → List ρ → List (Except ε α) × σ
  | state, [] => ([], state)
  | state, request :: requests =>
      match perform request state with
      | .ok answer state =>
          let (answers, state) := session perform state requests
          (.ok answer :: answers, state)
      | .error failure state =>
          let (answers, state) := session perform state requests
          (.error failure :: answers, state)

/-! ## Sequences -/

section Sequences

variable {ε σ α β : Type} {p : EStateM ε σ α} {f : α → EStateM ε σ β} {state left : σ}

theorem bind_of_ok {a : α} (h : p state = .ok a left) : (p >>= f) state = f a left := by
  simp only [bind, EStateM.bind, h]

theorem bind_of_error {error : ε} (h : p state = .error error left) : (p >>= f) state = .error error left := by
  simp only [bind, EStateM.bind, h]

/-- A sequence succeeds if both its parts do, the second in the state that the first one left. -/
theorem bind_ok {b : β} (h : (p >>= f) state = .ok b left) :
    ∃ a between, p state = .ok a between ∧ f a between = .ok b left := by
  cases hp : p state with
  | ok a between => exact ⟨a, between, rfl, (bind_of_ok hp).symm.trans h⟩
  | error error left' => cases (bind_of_error hp).symm.trans h

/-- A sequence fails where its first part fails, or where the second does behind the first. -/
theorem bind_error {error : ε} (h : (p >>= f) state = .error error left) :
    p state = .error error left ∨ ∃ a between, p state = .ok a between ∧ f a between = .error error left := by
  cases hp : p state with
  | ok a between => exact .inr ⟨a, between, rfl, (bind_of_ok hp).symm.trans h⟩
  | error error' left' =>
      cases (bind_of_error hp).symm.trans h
      exact .inl rfl

end Sequences

end ModuleLang
