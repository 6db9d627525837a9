import ModuleLang.Proofs.CommandLine.NormalForm

/-!
# `Proofs.CommandLine.Descriptions` — what the descriptions of tokens tell

A description leaves out where a token stands, and for most kinds its lexeme too, and nothing in it is escaped. Still
the descriptions of the tokens of a source tell all the kinds and lexemes: a lexeme has no line feed, and the lexemes
that are left out follow from their kinds.

## Contents
- **One description** (`Token.describe_eq_iff`): it tells the kind, as no name of a kind has a colon, and the lexeme,
  if the token is one that can be scanned.
- **All descriptions** (`describeAll_eq_iff`): each is a line of its own (`lines_describeAll`), so they are found again
  in the text that joins them.
- **`printed_tokens_faithful`**: the program prints as many lines as there are tokens, and the same text for two
  sources if and only if they have the same words.
-/

namespace ModuleLang

open CommandLine

/-! ## One description -/

namespace Token

/-- What a description shows of the lexeme. -/
def payload (token : Token) : List Char :=
  (token.payload?.getD "").toList

theorem toList_describe (token : Token) :
    token.describe.toList = ('\x7b' :: token.kind.name.toList) ++ ':' :: ' ' :: (token.payload ++ ['\x7d']) := by
  simp [describe, payload]

theorem toList_describe_concat (token : Token) :
    token.describe.toList = ('\x7b' :: (token.kind.name.toList ++ ':' :: ' ' :: token.payload)) ++ ['\x7d'] := by
  simp [toList_describe]

/-- In front of the first colon a description names the kind. -/
theorem takeWhile_describe (token : Token) :
    token.describe.toList.takeWhile (· ≠ ':') = '\x7b' :: token.kind.name.toList := by
  have hname : ∀ c ∈ '\x7b' :: token.kind.name.toList, decide (c ≠ ':') = true := by
    refine List.forall_mem_cons.mpr ⟨rfl, fun c hmem => decide_eq_true ?_⟩
    rintro rfl
    exact token.kind.colon_not_mem_name hmem
  rw [toList_describe, List.takeWhile_append_of_pos hname, List.takeWhile_cons_of_neg (by decide), List.append_nil]

/-- **The word of a token is known** from its kind and its payload, if the token is spelled. -/
theorem Spelled.word_eq {first second : Token} (hfirst : first.Spelled) (hsecond : second.Spelled)
    (hkind : first.kind = second.kind) (hpayload : first.payload = second.payload) : first.word = second.word := by
  cases hfixed : first.kind.hasPayload with
  | true =>
      rw [payload, payload, payload?, payload?, ← hkind, hfixed, if_pos rfl, if_pos rfl] at hpayload
      exact Prod.ext hkind hpayload
  | false =>
      -- both tokens have the one spelling of their kind
      have hword : first.word = (Symbol.mark first.kind).word := Symbol.Matches.word_eq rfl hfixed hfirst
      have hword' : second.word = (Symbol.mark first.kind).word := Symbol.Matches.word_eq hkind.symm hfixed hsecond
      exact hword.trans hword'.symm

/-- **A description tells the kind and the lexeme** of a spelled token, and nothing else. -/
theorem describe_eq_iff {first second : Token} (hfirst : first.Spelled) (hsecond : second.Spelled) :
    first.describe = second.describe ↔ first.word = second.word := by
  constructor
  · intro h
    have htext : first.describe.toList = second.describe.toList := congrArg String.toList h
    have hname : first.kind.name.toList = second.kind.name.toList := by
      have hfront := first.takeWhile_describe
      rw [htext, takeWhile_describe] at hfront
      exact (List.cons.inj hfront).2.symm
    have hkind : first.kind = second.kind := TokenKind.name_injective (String.toList_inj.mp hname)
    rw [toList_describe, toList_describe, hname] at htext
    have hback := (List.cons.inj (List.cons.inj (List.append_cancel_left htext)).2).2
    exact hfirst.word_eq hsecond hkind (List.append_cancel_right hback)
  · intro h
    obtain ⟨hkind, hlexeme⟩ := Prod.mk.inj h
    rw [describe, describe, payload?, payload?, hkind, String.toList_inj.mp hlexeme]

/-- There is no line feed in the payload of a spelled token. -/
theorem Spelled.newline_not_mem_payload {token : Token} (h : token.Spelled) : '\n' ∉ token.payload := by
  have hlexeme : '\n' ∉ token.lexeme.toList := by
    rcases h with hlexeme | hend
    · exact hlexeme.newline_not_mem
    · have hnil : token.lexeme.toList = [] := congrArg Prod.snd hend
      rw [hnil]
      exact List.not_mem_nil
  rw [payload, payload?]
  split
  · exact hlexeme
  · exact List.not_mem_nil

/-- There is no line feed in the description of a spelled token. -/
theorem Spelled.newline_not_mem_describe {token : Token} (h : token.Spelled) : '\n' ∉ token.describe.toList := by
  rw [toList_describe]
  simp [token.kind.newline_not_mem_name, h.newline_not_mem_payload]

end Token

/-! ## All descriptions -/

/-- **Each description is a line** of the text that joins them, however the lines are counted. -/
theorem lines_describeAll {tokens : List Token} (hne : tokens ≠ []) (h : ∀ token ∈ tokens, token.Spelled) :
    Text.splitLines (Token.describeAll tokens) = tokens.map Token.describe ∧
      Text.lines (Token.describeAll tokens) = tokens.map Token.describe := by
  have hdescriptions : tokens.map Token.describe ≠ [] := fun hnil => hne (List.map_eq_nil_iff.mp hnil)
  have hnewline : ∀ text ∈ tokens.map Token.describe, '\n' ∉ text.toList :=
    List.forall_mem_map.mpr fun token hmem => (h token hmem).newline_not_mem_describe
  have hbrace : ∀ text ∈ tokens.map Token.describe, ∃ c, text.toList.getLast? = some c ∧ c ≠ '\r' := by
    refine List.forall_mem_map.mpr fun token _ => ⟨'\x7d', ?_, by decide⟩
    rw [token.toList_describe_concat]
    exact List.getLast?_concat
  exact ⟨Text.splitLines_intercalate hdescriptions hnewline, Text.lines_intercalate hdescriptions hnewline hbrace⟩

/-- Rows of spelled tokens with the same descriptions have the same words. -/
theorem map_describe_eq_iff {tokens tokens' : List Token} (h : ∀ token ∈ tokens, token.Spelled)
    (h' : ∀ token ∈ tokens', token.Spelled) :
    tokens.map Token.describe = tokens'.map Token.describe ↔ tokens.map Token.word = tokens'.map Token.word := by
  induction tokens generalizing tokens' with
  | nil => rw [List.map_nil, List.map_nil, List.nil_eq, List.nil_eq, List.map_eq_nil_iff, List.map_eq_nil_iff]
  | cons token tokens ih =>
      cases tokens' with
      | nil => exact iff_of_false (List.cons_ne_nil _ _) (List.cons_ne_nil _ _)
      | cons token' tokens' =>
          obtain ⟨hfirst, hrest⟩ := List.forall_mem_cons.mp h
          obtain ⟨hfirst', hrest'⟩ := List.forall_mem_cons.mp h'
          simp only [List.map_cons, List.cons.injEq]
          rw [Token.describe_eq_iff hfirst hfirst', ih hrest hrest']

/-- **All descriptions together** tell the words of the tokens, and nothing else. -/
theorem describeAll_eq_iff {tokens tokens' : List Token} (hne : tokens ≠ []) (hne' : tokens' ≠ [])
    (h : ∀ token ∈ tokens, token.Spelled) (h' : ∀ token ∈ tokens', token.Spelled) :
    Token.describeAll tokens = Token.describeAll tokens' ↔ tokens.map Token.word = tokens'.map Token.word := by
  rw [← map_describe_eq_iff h h']
  constructor
  · intro htext
    rw [← (lines_describeAll hne h).1, htext, (lines_describeAll hne' h').1]
  · intro hdescriptions
    rw [Token.describeAll, Token.describeAll, hdescriptions]

/-! ## Printed tokens -/

/-- There is a token in every source that can be scanned: the end token. -/
theorem ne_nil_of_scan {source : String} {tokens : List Token} (h : scan source = .ok tokens) : tokens ≠ [] := by
  rintro rfl
  obtain ⟨words, -, hwords⟩ := readsAs_of_scan h
  simp at hwords

/-- What is printed for the tokens of a source, without a debug line. -/
theorem process_tokens {source : String} {tokens : List Token} (h : scan source = .ok tokens) (input : String) :
    process ⟨input, true, false⟩ source = .success (Token.describeAll tokens ++ "\n") := by
  rw [process_of_scan rfl h, report, if_neg Bool.false_ne_true, String.empty_append]

/-- **Printed tokens lose nothing but positions.** For a source that can be scanned, the program prints the
    descriptions of the tokens, one on each line, and there are no other lines. For two such sources the descriptions
    are the same text, and so is what the program prints, if and only if the sources have the same kinds and lexemes,
    one after the other. -/
theorem printed_tokens_faithful :
    (∀ source tokens, scan source = .ok tokens →
      (∀ input, process ⟨input, true, false⟩ source = .success (Token.describeAll tokens ++ "\n")) ∧
      Text.lines (Token.describeAll tokens) = tokens.map Token.describe ∧
      (Text.lines (Token.describeAll tokens)).length = tokens.length ∧
      (Text.splitLines (Token.describeAll tokens)).length = tokens.length) ∧
    ∀ a b tokens tokens', scan a = .ok tokens → scan b = .ok tokens' →
      (Token.describeAll tokens = Token.describeAll tokens' ↔ tokens.map Token.word = tokens'.map Token.word) ∧
      ∀ input, process ⟨input, true, false⟩ a = process ⟨input, true, false⟩ b ↔ scanWords a = scanWords b := by
  refine ⟨fun source tokens hscan => ?_, fun a b tokens tokens' ha hb => ?_⟩
  · obtain ⟨hsplit, hlines⟩ := lines_describeAll (ne_nil_of_scan hscan) (spelled_of_scan hscan)
    refine ⟨process_tokens hscan, hlines, ?_, ?_⟩
    · rw [hlines, List.length_map]
    · rw [hsplit, List.length_map]
  · have htexts := describeAll_eq_iff (ne_nil_of_scan ha) (ne_nil_of_scan hb) (spelled_of_scan ha) (spelled_of_scan hb)
    refine ⟨htexts, fun input => ?_⟩
    rw [process_tokens ha, process_tokens hb, scanWords_of_scan ha, scanWords_of_scan hb, Except.ok.injEq, ← htexts]
    constructor
    · intro houtcome
      have hstdout : Token.describeAll tokens ++ "\n" = Token.describeAll tokens' ++ "\n" :=
        congrArg Outcome.stdout houtcome
      rw [← String.toList_inj, String.toList_append, String.toList_append] at hstdout
      exact String.toList_inj.mp (List.append_cancel_right hstdout)
    · intro htext
      rw [htext]

/-- Three lines for three tokens, of which two are described without their lexemes. With blanks between them the same
    is printed, and with another name it is not. -/
theorem printed_tokens_faithful_around_brace :
    ∃ tokens, scan "x\x7b" = .ok tokens ∧ (Text.lines (Token.describeAll tokens)).length = 3 ∧
      process ⟨"-", true, false⟩ "x\x7b" = process ⟨"-", true, false⟩ "\n x \x7b" ∧
      process ⟨"-", true, false⟩ "x\x7b" ≠ process ⟨"-", true, false⟩ "y\x7b" := by
  have hx : scan "x\x7b" =
      .ok [⟨.identifier, "x", ⟨0, 0, 0⟩⟩, ⟨.leftBrace, "\x7b", ⟨0, 1, 1⟩⟩, ⟨.eof, "", ⟨0, 2, 2⟩⟩] := by
    decide +kernel
  have hblanks : scan "\n x \x7b" =
      .ok [⟨.identifier, "x", ⟨1, 1, 2⟩⟩, ⟨.leftBrace, "\x7b", ⟨1, 3, 4⟩⟩, ⟨.eof, "", ⟨1, 4, 5⟩⟩] := by
    decide +kernel
  have hy : scan "y\x7b" =
      .ok [⟨.identifier, "y", ⟨0, 0, 0⟩⟩, ⟨.leftBrace, "\x7b", ⟨0, 1, 1⟩⟩, ⟨.eof, "", ⟨0, 2, 2⟩⟩] := by
    decide +kernel
  obtain ⟨hlines, hsame⟩ := printed_tokens_faithful
  obtain ⟨-, -, hlength, -⟩ := hlines _ _ hx
  refine ⟨_, hx, hlength, ?_, ?_⟩
  · rw [(hsame _ _ _ _ hx hblanks).2 "-", scanWords_of_scan hx, scanWords_of_scan hblanks]
    rfl
  · rw [Ne, (hsame _ _ _ _ hx hy).2 "-", scanWords_of_scan hx, scanWords_of_scan hy, Except.ok.injEq]
    decide

end ModuleLang
