import ModuleLang.Parser.Basic
import ModuleLang.Proofs.Token.Replay

/-!
# `Proofs.Parser.Logic` — what a parser does to a row

A parser looks at its reader only through the row in front of it. So a parser is described by what it does
to a row: it ends, with a value or an error, and leaves some row. How the reader stores that row plays no
part here or in anything that is built on this module.

## Contents
- **`Meets`**: the specification of a parser on a row. It says that the parser ends, so a proof of it is a
  proof that there is a value or an error.
- **Combining** (`Meets.bind` and its two common forms, `Meets.next` and `Meets.stop`).
- **Looking, taking and failing**, one rule for each step of `Parser.Basic`, and where a step looks at the
  row one more for a row that fails there.
- **Repetition** (`Meets.repeatedly`): an invariant that every round keeps.
-/

namespace ModuleLang

/-- A row begins with a failure or with a token. -/
theorem Row.cases (row : Row) :
    (∃ failure, row 0 = .error failure) ∨ ∃ token left, row = Row.cons token left := by
  cases hfirst : row 0 with
  | error failure => exact .inl ⟨failure, rfl⟩
  | ok token =>
      refine .inr ⟨token, row.drop 1, ?_⟩
      funext n
      cases n with
      | zero => exact hfirst
      | succ n => rw [Row.cons_succ, Row.drop, Nat.add_comm]

namespace Parser

variable {α β : Type} {p : Parser α} {f : α → Parser β} {row left : Row} {token : Token}
  {bad : ParseError → Row → Prop} {good : α → Row → Prop} {good' : β → Row → Prop}

/-- **Specification on a row.** On every reader with this row in front, the parser ends with a good value
    or with a bad error, each judged together with the row that is left. -/
def Meets (p : Parser α) (row : Row) (bad : ParseError → Row → Prop) (good : α → Row → Prop) : Prop :=
  ∀ reader : Lookahead, reader.row = row →
    (∃ a left, p reader = .ok a left ∧ good a left.row) ∨
    (∃ error left, p reader = .error error left ∧ bad error left.row)

namespace Meets

/-! ## Combining -/

theorem pure {a : α} (h : good a row) : Meets (pure a) row bad good := fun reader hreader =>
  .inl ⟨a, reader, rfl, hreader ▸ h⟩

theorem bind {middle : α → Row → Prop} (hp : Meets p row bad middle)
    (hf : ∀ a left, middle a left → Meets (f a) left bad good') :
    Meets (p >>= f) row bad good' := by
  intro reader hreader
  rcases hp reader hreader with ⟨a, between, hfirst, hmiddle⟩ | ⟨error, left, hfirst, hbad⟩
  · simp only [Bind.bind, EStateM.bind, hfirst]
    exact hf a _ hmiddle between rfl
  · refine .inr ⟨error, left, ?_, hbad⟩
    simp only [Bind.bind, EStateM.bind, hfirst]

/-- A step that cannot succeed ends what it is a part of. -/
theorem stop (hp : Meets p row bad fun _ _ => False) : Meets (p >>= f) row bad good' :=
  hp.bind fun _ _ hfalse => hfalse.elim

/-- A step that leaves one value and one row hands them to what follows. -/
theorem next {a : α} (hp : Meets p row bad fun b between => b = a ∧ between = left)
    (hf : Meets (f a) left bad good') : Meets (p >>= f) row bad good' := by
  refine hp.bind fun b between hmiddle => ?_
  obtain ⟨rfl, rfl⟩ := hmiddle
  exact hf

theorem mono {better : α → Row → Prop} (h : Meets p row bad better)
    (hgood : ∀ a left, better a left → good a left) : Meets p row bad good := by
  intro reader hreader
  rcases h reader hreader with ⟨a, left, hrun, hbetter⟩ | hbad
  · exact .inl ⟨a, left, hrun, hgood a _ hbetter⟩
  · exact .inr hbad

/-- Errors may be described in other words. -/
theorem weaken {worse : ParseError → Row → Prop} (h : Meets p row worse good)
    (hbad : ∀ error left, worse error left → bad error left) : Meets p row bad good := by
  intro reader hreader
  rcases h reader hreader with hgood | ⟨error, left, hrun, hworse⟩
  · exact .inl hgood
  · exact .inr ⟨error, left, hrun, hbad error _ hworse⟩

theorem throw {error : ParseError} (h : bad error row) :
    Meets (throw error : Parser α) row bad good := fun reader hreader =>
  .inr ⟨error, reader, rfl, hreader ▸ h⟩

/-! ## Looking -/

theorem lookAt {n : Nat} (hrow : row n = .ok token) :
    Meets (lookAt n) row bad fun seen left => seen = token ∧ left = row := by
  rintro reader rfl
  obtain ⟨left, hpeek, hleft⟩ := Lookahead.peekNth_row n reader
  rw [hrow] at hpeek
  refine .inl ⟨token, left, ?_, rfl, hleft⟩
  simp only [Parser.lookAt, EStateM.adaptExcept, hpeek, conclude]

/-- Looking where the row fails gives the failure. -/
theorem lookAt_failing {n : Nat} {failure : LexError} {good : Token → Row → Prop}
    (hrow : row n = .error failure) (h : bad (.lexical failure) row) :
    Meets (Parser.lookAt n) row bad good := by
  rintro reader rfl
  obtain ⟨left, hpeek, hleft⟩ := Lookahead.peekNth_row n reader
  rw [hrow] at hpeek
  refine .inr ⟨.lexical failure, left, ?_, hleft ▸ h⟩
  simp only [Parser.lookAt, EStateM.adaptExcept, hpeek, conclude]

theorem peekKind : Meets peekKind (Row.cons token left) bad
    fun kind row => kind = token.kind ∧ row = Row.cons token left :=
  (lookAt (Row.cons_zero token left)).next (.pure ⟨rfl, rfl⟩)

theorem peekKind_failing {failure : LexError} {good : TokenKind → Row → Prop}
    (hrow : row 0 = .error failure) (h : bad (.lexical failure) row) :
    Meets Parser.peekKind row bad good :=
  stop (lookAt_failing hrow h)

theorem check (kind : TokenKind) : Meets (check kind) (Row.cons token left) bad
    fun holds row => holds = (token.kind == kind) ∧ row = Row.cons token left :=
  peekKind.next (.pure ⟨rfl, rfl⟩)

theorem check_failing {kind : TokenKind} {failure : LexError} {good : Bool → Row → Prop}
    (hrow : row 0 = .error failure) (h : bad (.lexical failure) row) :
    Meets (Parser.check kind) row bad good :=
  stop (peekKind_failing hrow h)

/-! ## Taking and failing -/

theorem advance : Meets advance (Row.cons token left) bad
    fun taken row => taken = token ∧ row = left := by
  intro reader hreader
  obtain ⟨behind, hnext, hleft⟩ := Lookahead.next_row reader
  rw [hreader] at hnext hleft
  refine .inl ⟨token, behind, ?_, rfl, ?_⟩
  · simp only [Parser.advance, EStateM.adaptExcept, hnext]
    rfl
  · rw [hleft]
    exact Row.drop_one_cons token left

/-- Where the row fails there is nothing to take. -/
theorem advance_failing {failure : LexError} {good : Token → Row → Prop}
    (hrow : row 0 = .error failure) (h : bad (.lexical failure) row) :
    Meets Parser.advance row bad good := by
  rintro reader rfl
  obtain ⟨behind, hnext, hleft⟩ := Lookahead.next_row reader
  rw [hrow] at hnext hleft
  refine .inr ⟨.lexical failure, behind, ?_, ?_⟩
  · simp only [Parser.advance, EStateM.adaptExcept, hnext, conclude]
  · have hstays : behind.row = reader.row := hleft.trans (Row.drop_zero _)
    rwa [hstays]

theorem report {expected : List TokenKind} (h : bad (.unexpected expected token) (Row.cons token left)) :
    Meets (report expected) (Row.cons token left) bad good :=
  (lookAt (Row.cons_zero token left)).next (.throw h)

/-- A token of the kind that is expected is taken. -/
theorem expect {kind : TokenKind} (hkind : token.kind = kind) :
    Meets (expect kind) (Row.cons token left) bad fun taken row => taken = token ∧ row = left := by
  refine (check kind).next ?_
  rw [hkind, beq_self_eq_true]
  exact advance

/-- A token of another kind is not. -/
theorem expect_other {kind : TokenKind} {good : Token → Row → Prop} (hkind : token.kind ≠ kind)
    (h : bad (.unexpected [kind] token) (Row.cons token left)) :
    Meets (Parser.expect kind) (Row.cons token left) bad good := by
  refine (check kind).next ?_
  rw [beq_false_of_ne hkind]
  exact report h

theorem expect_failing {kind : TokenKind} {failure : LexError} {good : Token → Row → Prop}
    (hrow : row 0 = .error failure) (h : bad (.lexical failure) row) :
    Meets (Parser.expect kind) row bad good :=
  stop (check_failing hrow h)

/-! ## Repetition -/

/-- **Repetition.** If every round keeps the invariant, or ends the repetition in a good way, then a
    repetition that begins with the invariant ends in a good way. -/
theorem repeatedly {step : α → Parser (Option α)} {advances : Advances step}
    (invariant : α → Row → Prop)
    (hround : ∀ a row, invariant a row → Meets (step a) row bad fun next left =>
      match next with
      | none => good a left
      | some b => invariant b left)
    {a : α} (h : invariant a row) : Meets (repeatedly step advances a) row bad good := by
  rintro reader rfl
  -- one case for each way in which a round can end; the run is known there, so the other outcome of the
  -- round's specification is impossible
  fun_induction Parser.repeatedly step advances a reader with
  | case1 a reader error left hrun =>
      rcases hround a reader.row h reader rfl with ⟨_, _, hother, -⟩ | ⟨_, _, hother, hbad⟩
      · cases hrun.symm.trans hother
      · cases hrun.symm.trans hother
        exact .inr ⟨error, left, rfl, hbad⟩
  | case2 a reader left hrun =>
      rcases hround a reader.row h reader rfl with ⟨_, _, hother, hgood⟩ | ⟨_, _, hother, -⟩
      · cases hrun.symm.trans hother
        exact .inl ⟨a, left, rfl, hgood⟩
      · cases hrun.symm.trans hother
  | case3 a reader next left hrun ih =>
      rcases hround a reader.row h reader rfl with ⟨_, _, hother, hnext⟩ | ⟨_, _, hother, -⟩
      · cases hrun.symm.trans hother
        exact ih hnext
      · cases hrun.symm.trans hother

end Meets

end Parser

end ModuleLang
