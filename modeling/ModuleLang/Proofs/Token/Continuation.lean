import ModuleLang.Proofs.Token.Position
import ModuleLang.Proofs.Token.Tokenization

/-!
# `Proofs.Token.Continuation` — tokens do not depend on what comes behind them

To read a token takes a look at one character behind it, and no more. So if a text goes on in another way behind
some token, the token and those before it are read as before, unless the other text goes on with this token.

## Contents
- **`Cursor.Reads`**: reading some tokens leads from one cursor to another. The tokens are then the first of the
  stream (`Reads.ofCursor_eq`), and so it is with all first tokens of a stream (`reads_of_tokens`).
- **Another rest behind one token** (`read_change`) and **behind several** (`Reads.change`), by induction on the
  tokens: only the last of them sees the end of the text that stays.
-/

namespace ModuleLang

namespace Cursor

/-! ## Reading some tokens -/

/-- **Reading some tokens**, none of them an end token, leads from one cursor to another. -/
inductive Reads : Cursor → List Token → Cursor → Prop where
  | refl (cursor : Cursor) : Reads cursor [] cursor
  | cons {cursor between behind : Cursor} {token : Token} {tokens : List Token} :
      cursor.read = .ok token between → token.kind ≠ .eof → Reads between tokens behind →
      Reads cursor (token :: tokens) behind

variable {cursor behind : Cursor} {tokens : List Token}

/-- What was passed by reading stands between the two cursors. -/
theorem Reads.reaches (h : cursor.Reads tokens behind) : cursor.Reaches behind := by
  induction h with
  | refl cursor => exact .refl cursor
  | cons hread _ _ ih =>
      obtain ⟨here, hhere, -, hbetween⟩ := read_standsAt hread
      exact (hhere.trans hbetween).trans ih

/-- To read a token takes characters. -/
theorem Reads.length_lt {token : Token} (h : cursor.Reads (token :: tokens) behind) :
    behind.rest.length < cursor.rest.length := by
  cases h with
  | cons hread hinner hrest =>
      obtain ⟨passed, hpassed, -⟩ := hrest.reaches
      have hshrinks := read_shrinks hread hinner
      rw [hpassed, List.length_append] at hshrinks
      omega

/-- The last of some tokens is read behind the others. -/
theorem Reads.of_concat {last : Token} (h : cursor.Reads (tokens ++ [last]) behind) :
    ∃ between : Cursor, between.read = .ok last behind ∧ last.kind ≠ .eof := by
  induction tokens generalizing cursor with
  | nil =>
      cases h with
      | cons hread hinner hrest =>
          cases hrest
          exact ⟨cursor, hread, hinner⟩
  | cons token tokens ih =>
      cases h with
      | cons _ _ hrest => exact ih hrest

/-- Tokens that were read are the first of the stream. -/
theorem Reads.ofCursor_eq (h : cursor.Reads tokens behind) :
    TokenStream.ofCursor cursor =
      ⟨tokens ++ (TokenStream.ofCursor behind).tokens, (TokenStream.ofCursor behind).ending⟩ := by
  induction h with
  | refl => rfl
  | cons hread hinner _ ih =>
      rw [TokenStream.ofCursor_of_read hread hinner, ih]
      rfl

/-- The first tokens of a stream can be read. -/
theorem reads_of_tokens {taken rest : List Token}
    (h : (TokenStream.ofCursor cursor).tokens = taken ++ rest) : ∃ behind, cursor.Reads taken behind := by
  induction taken generalizing cursor with
  | nil => exact ⟨cursor, .refl cursor⟩
  | cons token taken ih =>
      cases hread : cursor.read with
      | error failure here =>
          rw [TokenStream.ofCursor_of_error hread] at h
          cases h
      | ok first between =>
          by_cases hlast : first.kind = .eof
          · rw [TokenStream.ofCursor_of_end hread hlast] at h
            cases h
          · rw [TokenStream.ofCursor_of_read hread hlast] at h
            obtain ⟨rfl, hrest⟩ := List.cons.inj h
            obtain ⟨behind, hreads⟩ := ih hrest
            exact ⟨behind, .cons hread hlast hreads⟩

/-! ## Another rest -/

/-- **Another rest behind one token.** The token is read as before, if the other rest does not go on with it. -/
theorem read_change {front between rest rest' : List Char} {location location' : Location} {token : Token}
    (h : read ⟨front ++ rest, location⟩ = .ok token ⟨between ++ rest, location'⟩) (hinner : token.kind ≠ .eof)
    (hclosed : Closed token.kind (between ++ rest')) :
    read ⟨front ++ rest', location⟩ = .ok token ⟨between ++ rest', location'⟩ := by
  obtain ⟨gap, hgap, hskipped, hlocation⟩ := skipBlanks_eq ⟨front ++ rest, location⟩
  have htakes := takes_of_readHere h hinner
  -- the characters in front of the rest are the blanks, the lexeme and what is between
  have hfront : front = gap ++ (token.lexeme.toList ++ between) := by
    have htext := htakes.text
    simp only at htext hskipped
    rw [htext, ← List.append_assoc token.lexeme.toList, ← List.append_assoc gap] at hskipped
    exact List.append_cancel_right hskipped
  rw [hfront, List.append_assoc, List.append_assoc, read,
    skipBlanks_append hgap (htakes.lexeme.head_not_blank _)]
  refine readHere_of_takes ⟨rfl, htakes.lexeme, hclosed, ?_, ?_⟩
  · rw [htakes.location, hlocation]
  · rw [htakes.behind_location, hlocation]

/-- What closes a lexeme is the next character, whatever follows this one. -/
theorem closed_append_iff {kind : TokenKind} {front rest rest' : List Char} (hne : front ≠ []) :
    Closed kind (front ++ rest) ↔ Closed kind (front ++ rest') := by
  obtain ⟨c, front, rfl⟩ := List.exists_cons_of_ne_nil hne
  exact Iff.rfl

/-- **Another rest behind several tokens.** They are read as before, if the other rest does not go on with the last
    of them. -/
theorem Reads.change {front rest' : List Char} (h : cursor.Reads tokens behind)
    (hfront : cursor.rest = front ++ behind.rest) (hclosed : ∀ last ∈ tokens.getLast?, Closed last.kind rest') :
    Reads ⟨front ++ rest', cursor.location⟩ tokens ⟨rest', behind.location⟩ := by
  induction h generalizing front with
  | refl cursor =>
      rw [List.self_eq_append_left.mp hfront]
      exact .refl _
  | @cons cursor between behind token tokens hread hinner hreads ih =>
      obtain ⟨passed, hpassed, -⟩ := hreads.reaches
      have htoken : Closed token.kind (passed ++ rest') := by
        cases tokens with
        | nil =>
            -- the token is the last one, and stands in front of the other rest
            cases hreads
            rw [List.self_eq_append_left.mp hpassed]
            exact hclosed token rfl
        | cons next tokens =>
            -- the next token is in front of the other rest, and closes this one
            have hne : passed ≠ [] := by
              rintro rfl
              have hlength := hreads.length_lt
              rw [hpassed] at hlength
              exact absurd hlength (Nat.lt_irrefl _)
            have hbefore := (takes_of_readHere hread hinner).closed
            rw [hpassed] at hbefore
            exact (closed_append_iff hne).mp hbefore
      have hlater : ∀ last ∈ tokens.getLast?, Closed last.kind rest' := by
        intro last hmem
        refine hclosed last ?_
        rw [List.getLast?_cons, Option.mem_some_iff, hmem, Option.getD_some]
      refine .cons ?_ hinner (ih hpassed hlater)
      obtain ⟨text, location⟩ := cursor
      obtain ⟨following, location'⟩ := between
      cases hfront
      cases hpassed
      exact read_change hread hinner htoken

end Cursor

end ModuleLang
