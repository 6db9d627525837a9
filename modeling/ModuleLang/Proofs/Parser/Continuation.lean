import ModuleLang.Proofs.Parser.Decision
import ModuleLang.Proofs.Token.Continuation

/-!
# `Proofs.Parser.Continuation` — what follows an error does not change it

The parser reports a syntax error at the first token that does not fit, and has read nothing behind this token that
could make a difference. So a text that ends with this token gets the same error, however it goes on.

## Contents
- **A first fault stays** (`FirstFault.change`): with another text behind it, a token is still the first fault.
- **`parse_unexpected_continuation`**: another text behind the unexpected token gives the same error.
-/

namespace ModuleLang

open Grammar

/-- A first fault that is no end token is one of the tokens in front of the ending of a stream. -/
theorem FirstFault.tokens_eq {stream : TokenStream} (hproper : stream.Proper) {before : List Token} {found : Token}
    (h : FirstFault stream.all before found) (hinner : found.kind ≠ .eof) :
    ∃ rest, stream.tokens = (before ++ [found]) ++ rest := by
  obtain ⟨tokens, ending⟩ := stream
  obtain ⟨more, hmore⟩ := h.begins
  cases ending with
  | error failure => exact ⟨more, hmore.symm⟩
  | ok last =>
      rcases more.eq_nil_or_concat with rfl | ⟨rest, final, rfl⟩
      · -- with nothing behind it, the fault would be the end token
        rw [List.append_nil] at hmore
        obtain ⟨-, hfound⟩ := List.append_inj' hmore rfl
        obtain rfl := List.singleton_inj.mp hfound
        exact absurd (hproper.last found rfl) hinner
      · rw [List.concat_eq_append, ← List.append_assoc] at hmore
        obtain ⟨htokens, -⟩ := List.append_inj' hmore rfl
        exact ⟨rest, htokens.symm⟩

/-- **A first fault stays**, with another text behind the token. -/
theorem FirstFault.change {p s s' : String} {before : List Token} {found : Token}
    (h : FirstFault (TokenStream.ofSource (p ++ s)).all before found) (hinner : found.kind ≠ .eof)
    (hends : found.location.start + found.lexeme.length = p.length) (hclosed : Closed found.kind s'.toList) :
    FirstFault (TokenStream.ofSource (p ++ s')).all before found := by
  obtain ⟨rest, htokens⟩ := h.tokens_eq (TokenStream.proper_ofCursor _) hinner
  obtain ⟨behind, hreads⟩ := Cursor.reads_of_tokens htokens
  -- behind the fault the reader has passed as many characters as `p` has, so these are the characters of `p`
  obtain ⟨passed, hpassed, hlocation⟩ := hreads.reaches
  obtain ⟨between, hread, -⟩ := hreads.of_concat
  have htakes := Cursor.takes_of_readHere hread hinner
  have hlength : passed.length = p.toList.length := by
    have hbehind : behind.location.start = found.location.start + found.lexeme.toList.length := by
      rw [htakes.behind_location, Location.start_afterAll, htakes.location]
    rw [hlocation, Location.start_afterAll, String.length_toList, hends] at hbehind
    rw [String.length_toList, ← hbehind]
    exact (Nat.zero_add _).symm
  have htext : p.toList ++ s.toList = passed ++ behind.rest := by
    rw [← String.toList_append]
    exact hpassed
  obtain ⟨hp, -⟩ := List.append_inj htext hlength.symm
  have hlast : ∀ last ∈ (before ++ [found]).getLast?, Closed last.kind s'.toList := by
    intro last hmem
    rw [List.getLast?_concat, Option.mem_some_iff] at hmem
    exact hmem ▸ hclosed
  have hchanged := hreads.change hpassed hlast
  rw [← hp, ← String.toList_append] at hchanged
  refine ⟨?_, h.viable, h.fault⟩
  have hstream : TokenStream.ofSource (p ++ s') = _ := hchanged.ofCursor_eq
  rw [hstream, TokenStream.all_append]
  exact List.prefix_append _ _

/-- **What follows a syntax error does not change it.** If a text is rejected at a token that ends where `p` ends, then
    `p` is rejected at the same token, with the same list of expected kinds, whatever follows `p`, as long as it does
    not go on with this token. It may even be a character that no token begins with. -/
theorem parse_unexpected_continuation {p s s' : String} {expected : List TokenKind} {found : Token}
    (h : parse (p ++ s) = .error (.unexpected expected found)) (hinner : found.kind ≠ .eof)
    (hends : found.location.start + found.lexeme.length = p.length) (hclosed : Closed found.kind s'.toList) :
    parse (p ++ s') = .error (.unexpected expected found) := by
  obtain ⟨before, hfault, hcongr⟩ := parse_unexpected_congr h
  have hfault' := hfault.change hinner hends hclosed
  exact hcongr (p ++ s') before found hfault' rfl

/-- The second of two identifiers is rejected in front of a semicolon, and so it is in front of a digit that no
    identifier goes on with, though a bad character follows. -/
theorem parse_unexpected_continuation_before_bad :
    let p := "module m\x7bx y"
    let found : Token := ⟨.identifier, "y", ⟨0, 11, 11⟩⟩
    parse (p ++ ";\x7d") = .error (.unexpected [.semicolon, .plus, .minus] found) ∧
      found.location.start + found.lexeme.length = p.length ∧ Closed found.kind "1#".toList ∧
      parse (p ++ "1#") = .error (.unexpected [.semicolon, .plus, .minus] found) := by
  intro p found
  have hparse : parse (p ++ ";\x7d") = .error (.unexpected [.semicolon, .plus, .minus] found) := by decide +kernel
  have hends : found.location.start + found.lexeme.length = p.length := by decide +kernel
  have hclosed : Closed found.kind "1#".toList := by
    rintro _ ⟨⟩
    decide +kernel
  exact ⟨hparse, hends, hclosed, parse_unexpected_continuation hparse nofun hends hclosed⟩

end ModuleLang
