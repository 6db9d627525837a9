import ModuleLang.Proofs.Parser.Verdict
import ModuleLang.Proofs.Tree.Printing

/-!
# `Proofs.Parser.RoundTrip` — parsing printed trees

A printed tree can be parsed again, and gives the same tree up to locations, exactly if the tree is one that
a source can hold.

## Contents
- **`parse_wellFormed`**: parsed modules are well-formed.
- **`parse_render`**: a well-formed module survives printing and parsing. Its printed text has the words of
  its yield, so the tokens of the text are covered by it up to locations, and by what the parser gives as
  well. There is one such tree only.
- **`parse_render_iff`**: no other module does, and for parsed modules the printed text is stable.
-/

namespace ModuleLang

open Grammar

/-- **Parsed modules are well-formed.** -/
theorem parse_wellFormed {source : String} {m : Module} (h : parse source = .ok m) : m.WellFormed := by
  obtain ⟨tokens, hscan, hcovers⟩ := parse_covers h
  exact hcovers.wellFormed (lexeme_of_scan hscan)

/-- Erasing locations keeps the kinds of a row. -/
theorem kindsOf_eraseLocation (tokens : List Token) :
    kindsOf (tokens.map Token.eraseLocation) = kindsOf tokens := by
  rw [kindsOf, List.map_map]
  rfl

/-- **Well-formed modules can be parsed again.** -/
theorem parse_render {m : Module} (h : m.WellFormed) :
    ∃ again, parse m.render = .ok again ∧ again.eraseLocations = m.eraseLocations := by
  obtain ⟨words, hyield, hwritten⟩ := written_render h
  obtain ⟨tokens, hscan, hwords⟩ := exists_scan_iff_written.mpr hwritten
  -- the tokens of the printed text are those of the tree, but for their locations
  have hcovers : m.eraseLocations.Covers (tokens.map Token.eraseLocation) :=
    Module.covers_of_words h.shaped (hwords.trans hyield.symm)
  have hsentence : Sentence (kindsOf tokens) := by
    rw [← kindsOf_eraseLocation]
    exact hcovers.sentence
  obtain ⟨again, hparse⟩ := parse_of_sentence hscan hsentence
  obtain ⟨tokens', hscan', hagain⟩ := parse_covers hparse
  cases hscan.symm.trans hscan'
  exact ⟨again, hparse, hagain.eraseLocations.unique hcovers⟩

/-- **Round trip.** A module, parsed or built by hand, comes back from its printed text, up to locations, if
    and only if it is well-formed. What the parser gives is well-formed, so it comes back, and prints as the
    same text again. -/
theorem parse_render_iff :
    (∀ m : Module, (∃ again, parse m.render = .ok again ∧ again.eraseLocations = m.eraseLocations) ↔
      m.WellFormed) ∧
    ∀ source m, parse source = .ok m → m.WellFormed ∧
      ∃ again, parse m.render = .ok again ∧ again.eraseLocations = m.eraseLocations ∧
        again.render = m.render := by
  refine ⟨fun m => ⟨?_, parse_render⟩, fun source m h => ?_⟩
  · rintro ⟨again, hparse, herase⟩
    -- what comes back is a parsed tree, and well-formedness is not about locations
    rw [← Module.wellFormed_eraseLocations, ← herase, Module.wellFormed_eraseLocations]
    exact parse_wellFormed hparse
  · have hwellFormed := parse_wellFormed h
    obtain ⟨again, hparse, herase⟩ := parse_render hwellFormed
    refine ⟨hwellFormed, again, hparse, herase, ?_⟩
    rw [← Module.render_eraseLocations again, herase, Module.render_eraseLocations]

/-- A module that was built by hand, with a declaration and a chain of operators. Its tokens stand nowhere. It comes back
    with tokens that stand somewhere, and what comes back is stable. With the operators the other way round, so that
    there is a difference on the right of the sum, it does not come back. -/
theorem parse_render_iff_of_chain :
    let name (word : String) : Token := ⟨.identifier, word, .origin⟩
    let one : Expr := .literal ⟨.number, "1", .origin⟩
    let built (value : Expr) : Module :=
      ⟨name "m", ⟨.ofList [.declaration (name "x"), .assignment (name "x") value]⟩⟩
    let m := built (.operation .add (.operation .sub (.reference (name "x")) one) (.reference (name "y")))
    let nested := built (.operation .add (.reference (name "x")) (.operation .sub one (.reference (name "y"))))
    m.render = "module m \x7b\n  var x;\n  x = x - 1 + y;\n\x7d" ∧
      (∃ again, parse m.render = .ok again ∧ again.eraseLocations = m.eraseLocations ∧ again.WellFormed ∧
        ∃ third, parse again.render = .ok third ∧ third.render = again.render) ∧
      ¬ ∃ again, parse nested.render = .ok again ∧ again.eraseLocations = nested.eraseLocations := by
  intro name one built m nested
  have hm : (name "m").IsName := Token.isName_of_letters rfl (by decide) (by decide) (by decide) _
  have hx : (name "x").IsName := Token.isName_of_letters rfl (by decide) (by decide) (by decide) _
  have hy : (name "y").IsName := Token.isName_of_letters rfl (by decide) (by decide) (by decide) _
  have hone : one.LeavesFit := Token.isNumber_of_digits rfl (by decide) _
  have hstatements : ∀ statement ∈ m.statements.items,
      statement.Parts Token.IsName fun expr => expr.LeavesFit ∧ expr.LeftDeep :=
    List.forall_mem_cons.mpr ⟨hx, List.forall_mem_singleton.mpr ⟨hx, ⟨⟨hx, hone⟩, hy⟩, ⟨trivial, rfl⟩, rfl⟩⟩
  have hwellFormed : m.WellFormed := ⟨⟨hm, hstatements⟩, rfl⟩
  have hnested : ¬ nested.WellFormed := by
    rintro ⟨⟨-, hparts⟩, -⟩
    obtain ⟨-, -, -, hright⟩ := hparts _ (List.mem_cons_of_mem _ List.mem_cons_self)
    cases hright
  obtain ⟨hcomesBack, hstable⟩ := parse_render_iff
  obtain ⟨again, hparse, herase⟩ := (hcomesBack m).mpr hwellFormed
  obtain ⟨hagain, third, hthird, -, hrender⟩ := hstable m.render again hparse
  exact ⟨by decide +kernel, ⟨again, hparse, herase, hagain, third, hthird, hrender⟩,
    fun hback => hnested ((hcomesBack nested).mp hback)⟩

end ModuleLang
