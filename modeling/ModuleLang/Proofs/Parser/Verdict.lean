import ModuleLang.Proofs.Parser.Rules

/-!
# `Proofs.Parser.Verdict` — which sources hold a module

What the parser does to a row, said about the tokens of a source and the grammar, without a parser and
without an automaton.

## Contents
- **Trails through a stream.** A trail that has not come to the end takes some of its tokens (`Trail.begins`),
  and one that has come to the end takes all (`Trail.finished`).
- **Acceptance** (`parse_eq_ok_iff`): a source is accepted if its tokens are a sentence, and the module is the
  one tree that covers them.
- **Rejection** (`FirstFault`, `parse_error_first_fault`): the error is about the first token at which the
  tokens stop being viable, or about the bad character if there is no such token.
-/

namespace ModuleLang

open Grammar
open ModuleLang.Parser (Trail Faults)

/-! ## The tokens of a stream -/

namespace TokenStream

/-- If the first answer of a stream is a token, it is the first of its tokens. -/
theorem all_of_ok {stream : TokenStream} {token : Token} (h : stream.nth 0 = .ok token) :
    ∃ more, stream.all = token :: more := by
  obtain ⟨tokens, ending⟩ := stream
  cases tokens with
  | nil =>
      cases show ending = .ok token from h
      exact ⟨[], rfl⟩
  | cons first rest =>
      cases h
      exact ⟨_, all_append [token] rest ending⟩

/-- If the first answer of a stream is a failure, it has no tokens. -/
theorem all_of_error {stream : TokenStream} {failure : LexError} (h : stream.nth 0 = .error failure) :
    stream.ending = .error failure ∧ stream.all = [] := by
  obtain ⟨tokens, ending⟩ := stream
  cases tokens with
  | nil =>
      cases show ending = .error failure from h
      exact ⟨rfl, rfl⟩
  | cons first rest => cases h

theorem nth_cons (token : Token) (tokens : List Token) (ending : Except LexError Token) :
    nth ⟨token :: tokens, ending⟩ = Row.cons token (nth ⟨tokens, ending⟩) := by
  rw [nth_eq_foldr, nth_eq_foldr]
  rfl

/-- Tokens that stand in front of the row of a stream, and are no end tokens, are the first tokens of the
    stream. -/
theorem Proper.begins {stream : TokenStream} (hproper : stream.Proper) {taken : List Token} {left : Row}
    (hrow : stream.nth = taken.foldr Row.cons left) (hinner : ∀ token ∈ taken, token.kind ≠ .eof) :
    ∃ rest, stream.tokens = taken ++ rest ∧ left = nth ⟨rest, stream.ending⟩ := by
  obtain ⟨tokens, ending⟩ := stream
  induction taken generalizing tokens with
  | nil => exact ⟨tokens, rfl, hrow.symm⟩
  | cons token taken ih =>
      obtain ⟨htoken, htaken⟩ := List.forall_mem_cons.mp hinner
      -- the stream has a token here: its ending is a failure or an end token, and `token` is neither
      have hfirst : nth ⟨tokens, ending⟩ 0 = .ok token := congrFun hrow 0
      cases tokens with
      | nil => exact absurd (hproper.last token hfirst) htoken
      | cons first tokens =>
          cases hfirst
          have hrest : nth ⟨tokens, ending⟩ = taken.foldr Row.cons left := by
            funext n
            have hnext := congrFun hrow (n + 1)
            rwa [nth_cons] at hnext
          obtain ⟨rest, hrest, hleft⟩ :=
            ih htaken tokens ⟨fun other hmem => hproper.inner other (.tail _ hmem), hproper.last⟩ hrest
          exact ⟨rest, congrArg (token :: ·) hrest, hleft⟩

end TokenStream

theorem Parser.Trail.begins {start place : Place} {stream : TokenStream} {taken : List Token} {left : Row}
    (hproper : stream.Proper) (h : Trail start stream.nth taken place left) (hplace : place ≠ .finished) :
    ∃ rest, stream.tokens = taken ++ rest ∧ left = TokenStream.nth ⟨rest, stream.ending⟩ := by
  refine hproper.begins h.row_eq fun token hmem hlast => ?_
  refine Place.eof_not_mem h.run_eq hplace ?_
  rw [← hlast]
  exact List.mem_map_of_mem hmem

/-- **A trail that has come to the end** has taken all tokens. -/
theorem Parser.Trail.finished {stream : TokenStream} {tokens : List Token} {left : Row}
    (hproper : stream.Proper) (h : Trail .opening stream.nth tokens .finished left) :
    ∃ last, stream.ending = .ok last ∧ tokens = stream.tokens ++ [last] := by
  obtain ⟨hrow, hrun⟩ := h
  rcases tokens.eq_nil_or_concat with rfl | ⟨before, last, rfl⟩
  · cases hrun
  · rw [List.concat_eq_append] at hrow hrun ⊢
    rw [kindsOf_append, Place.run_append] at hrun
    obtain ⟨place, hbefore, hlast⟩ := Option.bind_eq_some_iff.mp hrun
    obtain ⟨next, hstep, hnext⟩ := Option.bind_eq_some_iff.mp hlast
    cases hnext
    -- the last token is the end token behind the closing brace, and the tokens before it are taken from the
    -- stream, whose end token stands at its end only
    obtain ⟨rfl, hkind⟩ := Place.step_eq_finished hstep
    rw [List.foldr_append] at hrow
    obtain ⟨rest, htokens, hleft⟩ := Parser.Trail.begins hproper ⟨hrow, hbefore⟩ (by decide)
    have hfirst : TokenStream.nth ⟨rest, stream.ending⟩ 0 = .ok last := (congrFun hleft 0).symm
    cases rest with
    | nil =>
        rw [List.append_nil] at htokens
        exact ⟨last, hfirst, by rw [htokens]⟩
    | cons first rest =>
        cases hfirst
        exact absurd hkind (hproper.inner last (by simp [htokens]))

/-! ## Acceptance and rejection -/

/-- **The first fault** of a row of tokens: the token with which the row stops being viable. -/
structure FirstFault (tokens before : List Token) (found : Token) : Prop where
  /-- The token is one of the row, behind some others. -/
  begins : before ++ [found] <+: tokens
  /-- The others alone are viable. -/
  viable : Viable (kindsOf before)
  /-- With the token they are not. -/
  fault : ¬ Viable (kindsOf (before ++ [found]))

/-- A trail through a stream that stops in front of a failure has taken all tokens, and they are viable. -/
theorem Parser.Trail.failed {stream : TokenStream} {taken : List Token} {place : Place} {left : Row}
    {failure : LexError} (hproper : stream.Proper) (h : Trail .opening stream.nth taken place left)
    (hfailure : left 0 = .error failure) :
    stream.ending = .error failure ∧ Viable (kindsOf stream.all) := by
  by_cases hplace : place = .finished
  · -- behind the end token there are more end tokens, and no failure
    subst hplace
    obtain ⟨last, hending, rfl⟩ := h.finished hproper
    have hanswer := congrFun h.row_eq (stream.tokens ++ [last]).length
    rw [← Nat.add_zero (stream.tokens ++ [last]).length, Row.foldr_cons_add, hfailure] at hanswer
    simp [TokenStream.nth, hending] at hanswer
  · have hviable : Viable (kindsOf taken) := (viable_iff_run _).mpr ⟨place, h.run_eq⟩
    obtain ⟨tokens, ending⟩ := stream
    obtain ⟨rest, rfl, rfl⟩ := h.begins hproper hplace
    obtain ⟨hending, hrest⟩ := TokenStream.all_of_error hfailure
    rw [TokenStream.all_append, hrest, List.append_nil]
    exact ⟨hending, hviable⟩

/-- One kind more is viable if and only if the place behind the others has room for it. -/
theorem Parser.Trail.viable_iff {origin left : Row} {taken : List Token} {place : Place}
    (h : Trail .opening origin taken place left) (kind : TokenKind) :
    Viable (kindsOf taken ++ [kind]) ↔ (place.step kind).isSome := by
  rw [viable_iff_run, Place.run_append, h.run_eq, Option.bind_some, Place.run_cons]
  cases place.step kind with
  | none => exact ⟨nofun, nofun⟩
  | some next => exact ⟨fun _ => rfl, fun _ => ⟨next, rfl⟩⟩

/-- A token that cannot stand where a trail has come to is the first fault of the stream. -/
theorem Parser.Trail.firstFault {stream : TokenStream} {taken : List Token} {place : Place} {found : Token}
    {left : Row} (hproper : stream.Proper) (h : Trail .opening stream.nth taken place (Row.cons found left))
    (hplace : place ≠ .finished) (hstep : place.step found.kind = none) :
    FirstFault stream.all taken found := by
  refine ⟨?_, ?_, ?_⟩
  · obtain ⟨tokens, ending⟩ := stream
    obtain ⟨rest, rfl, hleft⟩ := h.begins hproper hplace
    obtain ⟨more, hmore⟩ := TokenStream.all_of_ok (congrFun hleft 0).symm
    rw [TokenStream.all_append, hmore]
    exact ⟨more, List.append_assoc taken [found] more⟩
  · exact (viable_iff_run _).mpr ⟨place, h.run_eq⟩
  · rw [kindsOf_append]
    intro hviable
    have hstep' := (h.viable_iff found.kind).mp hviable
    rw [hstep] at hstep'
    cases hstep'

/-- **Faults, without an automaton.** Either a token is the first fault, and any expected kind would have kept
    the row viable; or all tokens together are viable, and a bad character follows them. -/
theorem Parser.Faults.verdict {stream : TokenStream} {error : ParseError} {left : Row}
    (hproper : stream.Proper) (h : Faults .opening stream.nth error left) :
    (∃ before found expected, FirstFault stream.all before found ∧ error = .unexpected expected found ∧
      ∀ kind ∈ expected, Viable (kindsOf before ++ [kind])) ∨
    ∃ failure, error = .lexical failure ∧ stream.ending = .error failure ∧
      Viable (kindsOf stream.all) := by
  cases h with
  | @unexpected taken place expected found left htrail hstep hsome hexpected =>
      have hroom (kind : TokenKind) (hmem : kind ∈ expected) : Viable (kindsOf taken ++ [kind]) :=
        (htrail.viable_iff kind).mpr ((hexpected kind).mp hmem).1
      have hplace : place ≠ .finished := ne_finished_of_listed hsome hexpected
      exact .inl ⟨taken, found, expected, htrail.firstFault hproper hplace hstep, rfl, hroom⟩
  | @lexical taken place failure left htrail hfailure =>
      exact .inr ⟨failure, rfl, htrail.failed hproper hfailure⟩
  | @behindName taken name failure left htrail hname hfailure =>
      -- the identifier is still in place, but it leads on, so it may be taken before the failure
      have hnamed := htrail.take (show Place.listing.step name.kind = some .named by rw [hname]; rfl)
      exact .inr ⟨failure, rfl, hnamed.failed hproper hfailure⟩

/-- What is in front of a viable row of kinds is viable. -/
theorem Grammar.Viable.begins {kinds : List TokenKind} (more : List TokenKind)
    (h : Viable (kinds ++ more)) : Viable kinds := by
  obtain ⟨rest, hsentence⟩ := h
  exact ⟨more ++ rest, by rwa [← List.append_assoc]⟩

/-- A row with a first fault is not viable. -/
theorem FirstFault.not_viable {tokens before : List Token} {found : Token}
    (h : FirstFault tokens before found) : ¬ Viable (kindsOf tokens) := by
  obtain ⟨more, hmore⟩ := h.begins
  intro hviable
  rw [← hmore, kindsOf_append] at hviable
  exact h.fault (hviable.begins _)

/-! ## Accepted sources -/

/-- The tokens of a source that can be scanned are all tokens of its stream. -/
theorem all_of_scan {source : String} {tokens : List Token} (h : scan source = .ok tokens) :
    (TokenStream.ofSource source).all = tokens := by
  obtain ⟨last, hending, rfl⟩ := scan_eq_ok_iff.mp h
  rw [TokenStream.all, hending]

/-- What the parser gives covers the tokens of the source. -/
theorem parse_covers {source : String} {m : Module} (h : parse source = .ok m) :
    ∃ tokens, scan source = .ok tokens ∧ m.Covers tokens := by
  rcases parse_cases source with ⟨found, tokens, left, hparse, htrail, hcovers⟩ | ⟨error, _, hparse, _⟩
  · cases hparse.symm.trans h
    rw [Cursor.row_eq_nth] at htrail
    exact ⟨tokens, scan_eq_ok_iff.mpr (htrail.finished (TokenStream.proper_ofCursor _)), hcovers⟩
  · cases hparse.symm.trans h

/-- A parse that fails has a verdict. -/
theorem parse_verdict {source : String} {error : ParseError} (h : parse source = .error error) :
    (∃ before found expected, FirstFault (TokenStream.ofSource source).all before found ∧
      error = .unexpected expected found ∧ ∀ kind ∈ expected, Viable (kindsOf before ++ [kind])) ∨
    ∃ failure, error = .lexical failure ∧ (TokenStream.ofSource source).ending = .error failure ∧
      Viable (kindsOf (TokenStream.ofSource source).all) := by
  rcases parse_cases source with ⟨_, _, _, hparse, _, _⟩ | ⟨found, left, hparse, hfaults⟩
  · cases hparse.symm.trans h
  · cases hparse.symm.trans h
    rw [Cursor.row_eq_nth] at hfaults
    exact hfaults.verdict (TokenStream.proper_ofCursor _)

/-- A source whose tokens are a sentence is accepted: neither verdict is possible. -/
theorem parse_of_sentence {source : String} {tokens : List Token} (hscan : scan source = .ok tokens)
    (hsentence : Sentence (kindsOf tokens)) : ∃ m, parse source = .ok m := by
  cases hparse : parse source with
  | ok m => exact ⟨m, rfl⟩
  | error error =>
      exfalso
      rcases parse_verdict hparse with ⟨before, found, _, hfault, _, _⟩ | ⟨failure, _, hending, _⟩
      · refine hfault.not_viable ⟨[], ?_⟩
        rwa [all_of_scan hscan, List.append_nil]
      · obtain ⟨last, hlast, -⟩ := scan_eq_ok_iff.mp hscan
        cases hlast.symm.trans hending

/-- A tree that covers the tokens of a source is what the source is parsed to. -/
theorem parse_of_covers {source : String} {tokens : List Token} {m : Module} (hscan : scan source = .ok tokens)
    (hcovers : m.Covers tokens) : parse source = .ok m := by
  obtain ⟨found, hparse⟩ := parse_of_sentence hscan hcovers.sentence
  obtain ⟨tokens', hscan', hcovers'⟩ := parse_covers hparse
  cases hscan.symm.trans hscan'
  rw [hparse, hcovers.unique hcovers']

/-- **Acceptance.** A source is accepted if and only if it can be scanned and the kinds of its tokens are a
    sentence. The module it is parsed to is the one module that has the form of a parsed tree and stands for
    exactly its tokens. -/
theorem parse_eq_ok_iff (source : String) :
    ((∃ m, parse source = .ok m) ↔ ∃ tokens, scan source = .ok tokens ∧ Sentence (kindsOf tokens)) ∧
    ∀ m, parse source = .ok m ↔ ∃ tokens, scan source = .ok tokens ∧ m.Shaped ∧ Spells m.yield tokens := by
  refine ⟨⟨?_, ?_⟩, fun m => ⟨fun h => ?_, ?_⟩⟩
  · rintro ⟨m, h⟩
    obtain ⟨tokens, hscan, hcovers⟩ := parse_covers h
    exact ⟨tokens, hscan, hcovers.sentence⟩
  · rintro ⟨tokens, hscan, hsentence⟩
    exact parse_of_sentence hscan hsentence
  · obtain ⟨tokens, hscan, hcovers⟩ := parse_covers h
    exact ⟨tokens, hscan, Module.covers_iff.mp hcovers⟩
  · rintro ⟨tokens, hscan, hshaped⟩
    -- the parser gives a tree that covers the same tokens, and there is one such tree
    have hcovers : m.Covers tokens := Module.covers_iff.mpr hshaped
    obtain ⟨found, hparse⟩ := parse_of_sentence hscan hcovers.sentence
    obtain ⟨tokens', hscan', hcovers'⟩ := parse_covers hparse
    cases hscan.symm.trans hscan'
    rw [hparse, hcovers.unique hcovers']

/-! ## Rejected sources -/

/-- **Rejection.** Whatever source is rejected, its tokens up to the end or to the first bad character decide
    about the error. If they stop being viable at some token, the error is about the first such token: they
    would have stayed viable with a token of any expected kind in its place, and its own kind is not one of
    them. Otherwise the error is about the bad character. -/
theorem parse_error_first_fault {source : String} {error : ParseError} (h : parse source = .error error) :
    let stream := TokenStream.ofSource source
    ((∃ row, row <+: stream.all ∧ ¬ Viable (kindsOf row)) →
      ∃ before found expected, FirstFault stream.all before found ∧ error = .unexpected expected found ∧
        (∀ kind ∈ expected, Viable (kindsOf before ++ [kind])) ∧ found.kind ∉ expected) ∧
    ((∀ row, row <+: stream.all → Viable (kindsOf row)) →
      ∃ failure, stream.ending = .error failure ∧ error = .lexical failure) := by
  intro stream
  rcases parse_verdict h with ⟨before, found, expected, hfault, rfl, hroom⟩ | ⟨failure, rfl, hending, hviable⟩
  · refine ⟨fun _ => ⟨before, found, expected, hfault, rfl, hroom, fun hmem => ?_⟩, fun hall => ?_⟩
    · have hfound := hroom found.kind hmem
      exact hfault.fault (by rwa [kindsOf_append])
    · exact absurd (hall _ (List.prefix_refl _)) hfault.not_viable
  · refine ⟨?_, fun _ => ⟨failure, hending, rfl⟩⟩
    rintro ⟨row, ⟨rest, hrest⟩, hrow⟩
    rw [← hrest, kindsOf_append] at hviable
    exact absurd (hviable.begins _) hrow

/-- In the second statement of a module, a semicolon behind an operator is the first fault, though the source cannot be
    scanned either. Without the semicolon the tokens are viable, and the error is about the bad character. -/
theorem parse_error_first_fault_in_statement :
    let found : Token := ⟨.semicolon, ";", ⟨0, 19, 19⟩⟩
    let failure : LexError := ⟨'#', ⟨0, 19, 19⟩⟩
    parse "module m\x7bvar x;x=1+;#" = .error (.unexpected [.number, .identifier] found) ∧
      (∃ before, FirstFault (TokenStream.ofSource "module m\x7bvar x;x=1+;#").all before found ∧
        Viable (kindsOf before ++ [.number]) ∧ found.kind ∉ [.number, .identifier]) ∧
      parse "module m\x7bvar x;x=1+#" = .error (.lexical failure) ∧
      (TokenStream.ofSource "module m\x7bvar x;x=1+#").ending = .error failure := by
  intro found failure
  let kinds : List TokenKind := [.moduleKeyword, .identifier, .leftBrace, .varKeyword, .identifier, .semicolon,
    .identifier, .equals, .number, .plus]
  have hviable : Viable kinds := (viable_iff_run _).mpr ⟨.wanting, rfl⟩
  have hfault : ¬ Viable (kinds ++ [.semicolon]) := by
    rw [viable_iff_run]
    rintro ⟨place, hrun⟩
    cases hrun
  have hunexpected : parse "module m\x7bvar x;x=1+;#" = .error (.unexpected [.number, .identifier] found) := by
    decide +kernel
  have hall : kindsOf (TokenStream.ofSource "module m\x7bvar x;x=1+;#").all = kinds ++ [.semicolon] := by decide +kernel
  have hlexical : parse "module m\x7bvar x;x=1+#" = .error (.lexical failure) := by decide +kernel
  have hall' : kindsOf (TokenStream.ofSource "module m\x7bvar x;x=1+#").all = kinds := by decide +kernel
  obtain ⟨before, _, _, hfirst, herror, hroom, hunlisted⟩ :=
    (parse_error_first_fault hunexpected).1 ⟨_, List.prefix_refl _, by rwa [hall]⟩
  cases herror
  have hrows : ∀ row, row <+: (TokenStream.ofSource "module m\x7bvar x;x=1+#").all → Viable (kindsOf row) := by
    rintro row ⟨rest, hrest⟩
    rw [← hall', ← hrest, kindsOf_append] at hviable
    exact hviable.begins _
  obtain ⟨failure', hending, herror'⟩ := (parse_error_first_fault hlexical).2 hrows
  cases herror'
  exact ⟨hunexpected, ⟨before, hfirst, hroom _ List.mem_cons_self, hunlisted⟩, hlexical, hending⟩

end ModuleLang
