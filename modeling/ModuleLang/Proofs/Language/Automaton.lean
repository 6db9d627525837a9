import ModuleLang.Language.Grammar

/-!
# `Proofs.Language.Automaton` — the grammar, one kind at a time

Whether a row of kinds can still become a sentence depends on little of what was read: on where in the
grammar the row ends. There are eleven such places, and each kind leads from a place to at most one other.

## Contents
- **`Place`**, with `Place.step` (one kind) and `Place.run` (a row of kinds).
- **Sentences run to the end** (`run_sentence`), one lemma for each rule of the grammar.
- **`Place.Completes`**: the rows that lead from a place to the end of a sentence, in terms of the grammar.
  A kind in front of a row that completes the next place completes this one (`Completes.cons`), so the rows
  that run to the end are sentences.
- **`sentence_iff_run`**: the sentences are the rows that run from the first place to the last.
- **`viable_iff_run`**: the viable rows are the rows that run at all, because every place can be completed
  (`run_completion`).
- **What leads to a place** where a statement can begin (`beforeStatement_iff_run`), and behind an identifier
  that one begins with (`run_eq_named_iff`).
-/

namespace ModuleLang.Grammar

/-- A place in the grammar, between two tokens of a sentence. -/
inductive Place where
  /-- Before the word `module`. -/
  | opening
  /-- Before the name of the module. -/
  | naming
  /-- Before the opening brace. -/
  | entering
  /-- Before a statement or the closing brace. -/
  | listing
  /-- Before the name of a declaration. -/
  | declaring
  /-- Behind the name of a declaration. -/
  | declared
  /-- Behind an identifier that a statement begins with. It is a term, or the name of an assignment. -/
  | named
  /-- Before a term that an equals sign or an operator calls for. -/
  | wanting
  /-- Behind a term that is no name of an assignment. -/
  | complete
  /-- Behind the closing brace. -/
  | closing
  /-- Behind the end token. -/
  | finished
deriving DecidableEq

namespace Place

/-- The place behind one more token, if a sentence can have a token of this kind here. -/
def step : Place → TokenKind → Option Place
  | opening, .moduleKeyword => some naming
  | naming, .identifier => some entering
  | entering, .leftBrace => some listing
  | listing, .varKeyword => some declaring
  | listing, .identifier => some named
  | listing, .number => some complete
  | listing, .rightBrace => some closing
  | declaring, .identifier => some declared
  | declared, .semicolon => some listing
  | named, .equals => some wanting
  | named, .plus | named, .minus => some wanting
  | named, .semicolon => some listing
  | wanting, .identifier | wanting, .number => some complete
  | complete, .plus | complete, .minus => some wanting
  | complete, .semicolon => some listing
  | closing, .eof => some finished
  | _, _ => none

/-- The place behind a row of tokens. -/
def run : Place → List TokenKind → Option Place
  | place, [] => some place
  | place, kind :: kinds => (place.step kind).bind fun next => next.run kinds

theorem run_cons (place : Place) (kind : TokenKind) (kinds : List TokenKind) :
    place.run (kind :: kinds) = (place.step kind).bind fun next => next.run kinds := rfl

/-- A row runs as its first part does, and from there as the other part does. -/
theorem run_append (place : Place) (first second : List TokenKind) :
    place.run (first ++ second) = (place.run first).bind fun between => between.run second := by
  induction first generalizing place with
  | nil => rfl
  | cons kind kinds ih =>
      rw [List.cons_append, run_cons, run_cons]
      cases place.step kind with
      | none => rfl
      | some next => exact ih next

/-- Places where a sentence goes on in one way only. -/
inductive Single : Place → TokenKind → Place → Prop where
  | opening : Single opening .moduleKeyword naming
  | naming : Single naming .identifier entering
  | entering : Single entering .leftBrace listing
  | declaring : Single declaring .identifier declared
  | closing : Single closing .eof finished

theorem Single.step_eq {place next : Place} {kind : TokenKind} (h : Single place kind next) :
    place.step kind = some next := by
  cases h <;> rfl

theorem Single.step_other {place next : Place} {kind other : TokenKind} (h : Single place kind next)
    (hother : other ≠ kind) : place.step other = none := by
  cases h <;> cases other <;> first
    | rfl
    | exact absurd rfl hother

/-! ## The end token -/

theorem step_finished (kind : TokenKind) : finished.step kind = none := by
  cases kind <;> rfl

theorem step_eof {place next : Place} (h : place.step .eof = some next) : next = finished := by
  cases place <;> cases h
  rfl

/-- The last token of a sentence is an end token, behind the closing brace. -/
theorem step_eq_finished {place : Place} {kind : TokenKind} (h : place.step kind = some finished) :
    place = closing ∧ kind = .eof := by
  cases place <;> cases kind <;> first
    | exact ⟨rfl, rfl⟩
    | cases h

/-- A row that does not run to the end has no end token. -/
theorem eof_not_mem {place next : Place} {kinds : List TokenKind} (hrun : place.run kinds = some next)
    (hnext : next ≠ finished) : .eof ∉ kinds := by
  induction kinds generalizing place with
  | nil => exact List.not_mem_nil
  | cons kind kinds ih =>
      obtain ⟨between, hstep, hrest⟩ := Option.bind_eq_some_iff.mp hrun
      -- an end token leads to the last place, and from there nothing leads on
      refine List.not_mem_cons_of_ne_of_not_mem ?_ (ih hrest)
      rintro rfl
      cases step_eof hstep
      cases kinds with
      | nil =>
          cases hrest
          exact hnext rfl
      | cons second rest =>
          rw [run_cons, step_finished] at hrest
          cases hrest

/-! ## Sentences run to the end -/

/-- A tail of operators and terms leads from behind a term to behind a term. -/
theorem run_tail {tail : List TokenKind} (htail : IsTail tail) (rest : List TokenKind) :
    complete.run (tail ++ rest) = complete.run rest := by
  induction htail with
  | nil => rfl
  | cons hoperator hterm _ ih =>
      rw [← ih]
      cases hoperator <;> cases hterm <;> rfl

/-- Expressions lead from where a term is wanted to behind a term. -/
theorem run_expr {value : List TokenKind} (hvalue : IsExpr value) (rest : List TokenKind) :
    wanting.run (value ++ rest) = complete.run rest := by
  cases hvalue with
  | chain hterm htail =>
      rw [← run_tail htail]
      cases hterm <;> rfl

/-- Behind an identifier that a statement begins with, an expression goes on as behind any term. -/
theorem run_named {tail : List TokenKind} (htail : IsTail tail) (rest : List TokenKind) :
    named.run (tail ++ .semicolon :: rest) = complete.run (tail ++ .semicolon :: rest) := by
  cases htail with
  | nil => rfl
  | cons hoperator _ _ => cases hoperator <;> rfl

/-- A statement and its semicolon lead from before a statement to before a statement. -/
theorem run_statement {statement : List TokenKind} (hstatement : IsStatement statement)
    (rest : List TokenKind) : listing.run (statement ++ .semicolon :: rest) = listing.run rest := by
  have hend : complete.run (.semicolon :: rest) = listing.run rest := rfl
  cases hstatement with
  | declaration => rfl
  | assignment hvalue => exact (run_expr hvalue _).trans hend
  | expression hvalue =>
      cases hvalue with
      | chain hterm htail =>
          refine Eq.trans ?_ ((run_tail htail _).trans hend)
          cases hterm with
          | number => rfl
          | identifier => exact run_named htail rest

theorem run_body {body : List TokenKind} (hbody : IsBody body) (rest : List TokenKind) :
    listing.run (body ++ rest) = listing.run rest := by
  induction hbody with
  | nil => rfl
  | cons hstatement _ ih =>
      rw [List.append_assoc, List.cons_append, run_statement hstatement, ih]

/-- **A sentence runs** from the first place to the last. -/
theorem run_sentence {kinds : List TokenKind} (hsentence : Sentence kinds) :
    opening.run kinds = some finished := by
  cases hsentence with
  | ofBody hbody => exact (run_body hbody [.rightBrace, .eof]).trans rfl

/-! ## What completes a sentence -/

/-- The rows that lead from a place to the end of a sentence. -/
inductive Completes : Place → List TokenKind → Prop where
  | opening {kinds : List TokenKind} : Sentence kinds → Completes opening kinds
  | naming {rest : List TokenKind} : Completes entering rest → Completes naming (.identifier :: rest)
  | entering {rest : List TokenKind} : Completes listing rest → Completes entering (.leftBrace :: rest)
  | listing {body : List TokenKind} : IsBody body → Completes listing (body ++ [.rightBrace, .eof])
  | declaring {rest : List TokenKind} :
      Completes declared rest → Completes declaring (.identifier :: rest)
  | declared {rest : List TokenKind} : Completes listing rest → Completes declared (.semicolon :: rest)
  | assigned {rest : List TokenKind} : Completes wanting rest → Completes named (.equals :: rest)
  | read {rest : List TokenKind} : Completes complete rest → Completes named rest
  | wanting {value rest : List TokenKind} :
      IsExpr value → Completes listing rest → Completes wanting (value ++ .semicolon :: rest)
  | complete {tail rest : List TokenKind} :
      IsTail tail → Completes listing rest → Completes complete (tail ++ .semicolon :: rest)
  | closing : Completes closing [.eof]
  | finished : Completes finished []

/-- A statement in front of what completes a list of statements completes one. -/
theorem Completes.statement {statement rest : List TokenKind} (hstatement : IsStatement statement)
    (hrest : Completes .listing rest) : Completes .listing (statement ++ .semicolon :: rest) := by
  cases hrest with
  | listing hbody =>
      have hlonger := Completes.listing (.cons hstatement hbody)
      rwa [List.append_assoc, List.cons_append] at hlonger

/-- An operator in front of what completes a wanted term completes an expression. -/
theorem Completes.operator {operator : TokenKind} {rest : List TokenKind}
    (hoperator : IsOperator operator) (hrest : Completes .wanting rest) :
    Completes .complete (operator :: rest) := by
  cases hrest with
  | wanting hvalue hrest =>
      cases hvalue with
      | chain hterm htail => exact .complete (.cons hoperator hterm htail) hrest

/-- A term in front of what completes an expression completes a statement. -/
theorem Completes.term {term : TokenKind} {rest : List TokenKind} (hterm : IsTerm term)
    (hrest : Completes .complete rest) : Completes .listing (term :: rest) := by
  cases hrest with
  | complete htail hrest => exact .statement (.expression (.chain hterm htail)) hrest

/-- What completes a module up to its body begins a sentence with the word in front. -/
theorem Completes.module {rest : List TokenKind} (hrest : Completes .naming rest) :
    Completes .opening (.moduleKeyword :: rest) := by
  cases hrest with
  | naming hrest =>
      cases hrest with
      | entering hrest =>
          cases hrest with
          | listing hbody => exact .opening (.ofBody hbody)

/-- A declaration in front of what completes a list of statements completes one. -/
theorem Completes.declaration {rest : List TokenKind} (hrest : Completes .declaring rest) :
    Completes .listing (.varKeyword :: rest) := by
  cases hrest with
  | declaring hrest =>
      cases hrest with
      | declared hrest => exact .statement .declaration hrest

/-- An identifier in front of what completes a statement that begins with one completes it. -/
theorem Completes.identifier {rest : List TokenKind} (hrest : Completes .named rest) :
    Completes .listing (.identifier :: rest) := by
  cases hrest with
  | read hrest => exact .term .identifier hrest
  | assigned hrest =>
      cases hrest with
      | wanting hvalue hrest => exact .statement (.assignment hvalue) hrest

/-- A term in front of what completes an expression completes a wanted term. -/
theorem Completes.value {term : TokenKind} {rest : List TokenKind} (hterm : IsTerm term)
    (hrest : Completes .complete rest) : Completes .wanting (term :: rest) := by
  cases hrest with
  | complete htail hrest => exact .wanting (.chain hterm htail) hrest

/-- **One kind more.** A kind in front of what completes the next place completes this one. -/
theorem Completes.cons {place next : Place} {kind : TokenKind} {kinds : List TokenKind}
    (hstep : place.step kind = some next) (hrest : Completes next kinds) :
    Completes place (kind :: kinds) := by
  -- one case for each step that there is, in the order of `step`
  unfold step at hstep
  split at hstep <;> cases hstep
  case h_1 => exact .module hrest
  case h_2 => exact .naming hrest
  case h_3 => exact .entering hrest
  case h_4 => exact .declaration hrest
  case h_5 => exact .identifier hrest
  case h_6 => exact .term .number hrest
  case h_7 =>
    cases hrest
    exact .listing .nil
  case h_8 => exact .declaring hrest
  case h_9 => exact .declared hrest
  case h_10 => exact .assigned hrest
  case h_11 => exact .read (.operator .plus hrest)
  case h_12 => exact .read (.operator .minus hrest)
  case h_13 => exact .read (.complete .nil hrest)
  case h_14 => exact .value .identifier hrest
  case h_15 => exact .value .number hrest
  case h_16 => exact .operator .plus hrest
  case h_17 => exact .operator .minus hrest
  case h_18 => exact .complete .nil hrest
  case h_19 =>
    cases hrest
    exact .closing

/-- Rows that run from a place to the last one complete it. -/
theorem Completes.of_run {place : Place} {kinds : List TokenKind}
    (hrun : place.run kinds = some .finished) : Completes place kinds := by
  induction kinds generalizing place with
  | nil =>
      cases hrun
      exact .finished
  | cons kind kinds ih =>
      obtain ⟨next, hstep, hrest⟩ := Option.bind_eq_some_iff.mp hrun
      exact .cons hstep (ih hrest)

/-- A row that leads from each place to the last one. -/
def completion : Place → List TokenKind
  | opening => [.moduleKeyword, .identifier, .leftBrace, .rightBrace, .eof]
  | naming => [.identifier, .leftBrace, .rightBrace, .eof]
  | entering => [.leftBrace, .rightBrace, .eof]
  | listing => [.rightBrace, .eof]
  | declaring => [.identifier, .semicolon, .rightBrace, .eof]
  | wanting => [.number, .semicolon, .rightBrace, .eof]
  | declared | named | complete => [.semicolon, .rightBrace, .eof]
  | closing => [.eof]
  | finished => []

theorem run_completion (place : Place) : place.run place.completion = some finished := by
  cases place <;> rfl

end Place

/-! ## Sentences and viable rows -/

/-- **Sentences.** A row is a sentence if and only if it runs from the first place to the last. -/
theorem sentence_iff_run (kinds : List TokenKind) :
    Sentence kinds ↔ Place.opening.run kinds = some .finished := by
  refine ⟨Place.run_sentence, fun hrun => ?_⟩
  cases Place.Completes.of_run hrun with
  | opening hsentence => exact hsentence

/-- **Viable rows.** A row can become a sentence if and only if it runs at all. -/
theorem viable_iff_run (kinds : List TokenKind) :
    Viable kinds ↔ ∃ place, Place.opening.run kinds = some place := by
  constructor
  · rintro ⟨rest, hsentence⟩
    rw [sentence_iff_run, Place.run_append] at hsentence
    obtain ⟨place, hrun, -⟩ := Option.bind_eq_some_iff.mp hsentence
    exact ⟨place, hrun⟩
  · rintro ⟨place, hrun⟩
    refine ⟨place.completion, (sentence_iff_run _).mpr ?_⟩
    rw [Place.run_append, hrun, Option.bind_some, Place.run_completion]

/-! ## What leads to a place -/

/-- **Statements begin** behind the rows that run to the place before a statement. -/
theorem beforeStatement_iff_run (kinds : List TokenKind) :
    BeforeStatement kinds ↔ Place.opening.run kinds = some .listing := by
  constructor
  · rintro ⟨hbody⟩
    have hrun := Place.run_body hbody []
    rw [List.append_nil] at hrun
    exact hrun
  · intro hrun
    -- with a closing brace and the end behind it, the row is a sentence
    have hsentence : Sentence (kinds ++ [.rightBrace, .eof]) := by
      rw [sentence_iff_run, Place.run_append, hrun]
      rfl
    generalize hrow : kinds ++ [.rightBrace, .eof] = row at hsentence
    cases hsentence with
    | @ofBody body hbody =>
        have hkinds : kinds = .moduleKeyword :: .identifier :: .leftBrace :: body :=
          List.append_cancel_right hrow
        rw [hkinds]
        exact .ofBody hbody

theorem Place.step_eq_named {place : Place} {kind : TokenKind} (h : place.step kind = some named) :
    place = listing ∧ kind = .identifier := by
  cases place <;> cases kind <;> first
    | exact ⟨rfl, rfl⟩
    | cases h

/-- What runs to behind an identifier that a statement begins with ends in this identifier. -/
theorem run_eq_named_iff (kinds : List TokenKind) : Place.opening.run kinds = some .named ↔
    ∃ before, BeforeStatement before ∧ kinds = before ++ [.identifier] := by
  constructor
  · intro hrun
    rcases kinds.eq_nil_or_concat with rfl | ⟨before, last, rfl⟩
    · cases hrun
    · rw [List.concat_eq_append, Place.run_append] at hrun
      obtain ⟨place, hbefore, hlast⟩ := Option.bind_eq_some_iff.mp hrun
      obtain ⟨next, hstep, hnext⟩ := Option.bind_eq_some_iff.mp hlast
      cases hnext
      obtain ⟨rfl, rfl⟩ := Place.step_eq_named hstep
      exact ⟨before, (beforeStatement_iff_run before).mpr hbefore, List.concat_eq_append⟩
  · rintro ⟨before, hbefore, rfl⟩
    rw [Place.run_append, (beforeStatement_iff_run before).mp hbefore]
    rfl

end ModuleLang.Grammar
