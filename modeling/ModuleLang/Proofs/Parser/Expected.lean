import ModuleLang.Proofs.Parser.Verdict

/-!
# `Proofs.Parser.Expected` — which kinds a syntax error lists

A syntax error lists kinds that would have been accepted. Where a statement ends the list is made only after
the parser has decided what sort of statement it has read, so it is not always the whole list.

## Contents
- **`parse_error_lists`**: the list has every kind that would have kept the tokens viable, and no other, but for
  the equals sign behind an identifier that a statement begins with.
- **`parse_error_lists_not_all`**: there the equals sign is missing, though it would have been accepted.
-/

namespace ModuleLang

open Grammar

/-- The kinds listed at a place, without an automaton. -/
theorem Parser.Trail.listed_iff {origin left : Row} {taken : List Token} {place : Place}
    (h : Trail .opening origin taken place left) (kind : TokenKind) :
    Listed place kind ↔ Viable (kindsOf taken ++ [kind]) ∧
      ¬ (kind = .equals ∧ ∃ rest, BeforeStatement rest ∧ kindsOf taken = rest ++ [.identifier]) := by
  have hnamed : place = .named ↔ ∃ rest, BeforeStatement rest ∧ kindsOf taken = rest ++ [.identifier] := by
    rw [← run_eq_named_iff, h.run_eq, Option.some.injEq]
  rw [Listed, h.viable_iff, hnamed, and_comm (a := kind = .equals)]

/-- **What a syntax error lists.** The tokens before the unexpected one decide about the list. A kind is listed
    if and only if it would have kept them viable, with one exception: if the tokens end in an identifier that
    a statement begins with, the equals sign of an assignment is not listed. -/
theorem parse_error_lists {source : String} {expected : List TokenKind} {found : Token}
    (h : parse source = .error (.unexpected expected found)) :
    ∃ before, FirstFault (TokenStream.ofSource source).all before found ∧
      ∀ kind, kind ∈ expected ↔ Viable (kindsOf before ++ [kind]) ∧
        ¬ (kind = .equals ∧ ∃ rest, BeforeStatement rest ∧ kindsOf before = rest ++ [.identifier]) := by
  rcases parse_cases source with ⟨_, _, _, hparse, _, _⟩ | ⟨error, left, hparse, hfaults⟩
  · cases hparse.symm.trans h
  · cases hparse.symm.trans h
    rw [Cursor.row_eq_nth] at hfaults
    cases hfaults with
    | @unexpected before place _ _ left htrail hstep hsome hexpected =>
        have hplace : place ≠ .finished := Parser.ne_finished_of_listed hsome hexpected
        have hfault := htrail.firstFault (TokenStream.proper_ofCursor _) hplace hstep
        exact ⟨before, hfault, fun kind => (hexpected kind).trans (htrail.listed_iff kind)⟩

/-- Behind the term of an assignment the list is whole. -/
theorem parse_error_lists_behind_term :
    let found : Token := ⟨.identifier, "z", ⟨0, 13, 13⟩⟩
    let expected : List TokenKind := [.semicolon, .plus, .minus]
    parse "module m\x7bx=y z" = .error (.unexpected expected found) ∧
      ∃ before, FirstFault (TokenStream.ofSource "module m\x7bx=y z").all before found ∧
        ∀ kind, kind ∈ expected ↔ Viable (kindsOf before ++ [kind]) ∧
          ¬ (kind = .equals ∧ ∃ rest, BeforeStatement rest ∧ kindsOf before = rest ++ [.identifier]) := by
  intro found expected
  have hparse : parse "module m\x7bx=y z" = .error (.unexpected expected found) := by decide +kernel
  exact ⟨hparse, parse_error_lists hparse⟩

/-- **The list is not always whole.** In `module m{x y` the second identifier is unexpected, and an equals sign
    in its place would have been accepted, but is not listed. -/
theorem parse_error_lists_not_all :
    ¬ ∀ source expected found before, parse source = .error (.unexpected expected found) →
      FirstFault (TokenStream.ofSource source).all before found →
      ∀ kind, Viable (kindsOf before ++ [kind]) → kind ∈ expected := by
  intro hall
  have hparse : parse "module m\x7bx y" =
      .error (.unexpected [.semicolon, .plus, .minus] ⟨.identifier, "y", ⟨0, 11, 11⟩⟩) := by decide +kernel
  let before : List Token := [⟨.moduleKeyword, "module", ⟨0, 0, 0⟩⟩, ⟨.identifier, "m", ⟨0, 7, 7⟩⟩,
    ⟨.leftBrace, "\x7b", ⟨0, 8, 8⟩⟩, ⟨.identifier, "x", ⟨0, 9, 9⟩⟩]
  have hrow : (TokenStream.ofSource "module m\x7bx y").all =
      before ++ [⟨.identifier, "y", ⟨0, 11, 11⟩⟩, ⟨.eof, "", ⟨0, 12, 12⟩⟩] := by decide +kernel
  have hfault : FirstFault (TokenStream.ofSource "module m\x7bx y").all before ⟨.identifier, "y", ⟨0, 11, 11⟩⟩ := by
    rw [hrow]
    refine ⟨⟨[⟨.eof, "", ⟨0, 12, 12⟩⟩], rfl⟩, (viable_iff_run _).mpr ⟨.named, rfl⟩, ?_⟩
    rw [viable_iff_run]
    rintro ⟨place, hrun⟩
    cases hrun
  have hequals : Viable (kindsOf before ++ [.equals]) := (viable_iff_run _).mpr ⟨.wanting, rfl⟩
  have hmem := hall _ _ _ before hparse hfault .equals hequals
  exact absurd hmem (by decide)

end ModuleLang
