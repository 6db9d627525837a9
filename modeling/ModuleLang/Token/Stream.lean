import ModuleLang.Token.Cursor

/-!
# `Token.Stream` — the tokens of a source text

Reading token after token from a text never ends: there are some tokens, and then the same answer for
ever, which is the end token or the failure at a character that no token begins with. A token stream is
this row of answers in finite form. Statements about readers and parsers are made in terms of it.

## Contents
- **`Cursor.answer`**: the answers of reading again and again.
- **`TokenStream`** with `ofSource`, `all` and `nth`. `nth_ofCursor` says that the stream of a cursor is the row
  of its answers.
- **`scan`**: all tokens of a text, the end token included.
-/

namespace ModuleLang

/-! ## Reading again and again -/

/-- The `n`-th answer of reading again and again, each time from where the time before left the cursor. -/
def Cursor.answer : (n : Nat) → Cursor → Except LexError Token
  | 0, cursor =>
      match cursor.read with
      | .ok token _ => .ok token
      | .error failure _ => .error failure
  | n + 1, cursor =>
      match cursor.read with
      | .ok _ behind => behind.answer n
      | .error _ here => here.answer n

/-! ## Streams -/

/-- The tokens of a text, and what follows them for ever. -/
structure TokenStream where
  /-- The tokens before the end of the text or before the first bad character. -/
  tokens : List Token
  /-- The end token, or the failure at the first bad character. -/
  ending : Except LexError Token

namespace TokenStream

/-- The tokens behind a cursor. -/
def ofCursor (cursor : Cursor) : TokenStream :=
  match _found : cursor.read with
  | .error failure _ => ⟨[], .error failure⟩
  | .ok token behind =>
      if _last : token.kind = .eof then ⟨[], .ok token⟩
      else
        let following := ofCursor behind
        ⟨token :: following.tokens, following.ending⟩
termination_by cursor.rest.length
decreasing_by exact Cursor.read_shrinks _found _last

/-- The tokens of a source text. -/
def ofSource (source : String) : TokenStream :=
  ofCursor (.ofSource source)

/-- All tokens of a stream, the end token included if there is one. -/
def all (stream : TokenStream) : List Token :=
  match stream.ending with
  | .ok last => stream.tokens ++ [last]
  | .error _ => stream.tokens

/-- The answer `n` places from here. -/
def nth (stream : TokenStream) (n : Nat) : Except LexError Token :=
  match stream.tokens[n]? with
  | some token => .ok token
  | none => stream.ending

/-- The stream of a cursor is the row of answers that reading again and again gives. -/
theorem nth_ofCursor (cursor : Cursor) (n : Nat) : (ofCursor cursor).nth n = cursor.answer n := by
  induction n generalizing cursor with
  | zero =>
      unfold ofCursor
      split
      case h_1 found => simp [nth, Cursor.answer, found]
      case h_2 found => split <;> simp [nth, Cursor.answer, found]
  | succ n ih =>
      unfold ofCursor
      split
      case h_1 failure here found =>
        have again := ih here
        rw [ofCursor, Cursor.read_of_error found] at again
        simpa [nth, Cursor.answer, found] using again
      case h_2 token behind found =>
        split
        case isTrue last =>
          have again := ih behind
          rw [ofCursor, Cursor.read_of_eof found last] at again
          simpa [nth, Cursor.answer, found, last] using again
        case isFalse => simpa [nth, Cursor.answer, found] using ih behind

end TokenStream

/-- All tokens of a source text, the last one the end token. -/
def scan (source : String) : Except LexError (List Token) :=
  let stream := TokenStream.ofSource source
  stream.ending.map fun last => stream.tokens ++ [last]

theorem scan_eq_error_iff {source : String} {failure : LexError} :
    scan source = .error failure ↔ (TokenStream.ofSource source).ending = .error failure := by
  simp only [scan]
  cases (TokenStream.ofSource source).ending with
  | error failure' => simp [Except.map]
  | ok last => exact ⟨nofun, nofun⟩

theorem scan_eq_ok_iff {source : String} {tokens : List Token} :
    scan source = .ok tokens ↔ ∃ last, (TokenStream.ofSource source).ending = .ok last ∧
      tokens = (TokenStream.ofSource source).tokens ++ [last] := by
  simp only [scan]
  cases (TokenStream.ofSource source).ending with
  | error failure => exact ⟨nofun, nofun⟩
  | ok last =>
      constructor
      · rintro ⟨⟩
        exact ⟨last, rfl, rfl⟩
      · rintro ⟨_, ⟨⟩, rfl⟩
        rfl

end ModuleLang
