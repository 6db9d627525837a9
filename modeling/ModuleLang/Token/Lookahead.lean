import ModuleLang.Token.Cursor

/-!
# `Token.Lookahead` — reading tokens on demand, with lookahead

A lookahead reader reads a text lazily: a token is read when it is asked for. Tokens that were only
looked at wait in a queue, and `next` hands them out before it reads more text. An operation that fails
keeps the tokens that it queued before the failure, so the reader can be used after it.

## Contents
- **Reading several tokens.** `Cursor.readMany` and `Cursor.readThrough` give the tokens read, the
  failure that stopped them early, and the cursor that is left.
- **`Lookahead`** with `next`, `peek`, `peekNth` and `peekUntil`.
- **`Request`**, **`Answer`**, **`perform`**: the operations as data, for sessions.
- **Bounds.** `fill_length`: once `fill` succeeds the queue holds enough tokens, so `peekNth` indexes
  it within its bounds.
- **Progress.** `size` bounds the tokens before the end. No operation raises it (`size_peekNth`,
  `size_next`), and taking a token that is not the end token lowers it (`size_next_lt`).
-/

namespace ModuleLang

/-! ## Reading several tokens -/

/-- What reading several tokens gave. -/
structure Reading where
  /-- The tokens that were read. -/
  tokens : List Token
  /-- The failure that stopped the reading early, if there was one. -/
  failure? : Option LexError
  /-- The cursor behind the tokens, or on the bad character. -/
  cursor : Cursor

namespace Cursor

/-- Reads `count` tokens. -/
def readMany : Nat → Cursor → Reading
  | 0, cursor => ⟨[], none, cursor⟩
  | count + 1, cursor =>
      match cursor.read with
      | .error failure here => ⟨[], some failure, here⟩
      | .ok token behind =>
          let following := behind.readMany count
          { following with tokens := token :: following.tokens }

/-- Reads tokens up to and including the first of one of the given kinds, or the end token. -/
def readThrough (stop : List TokenKind) (cursor : Cursor) : Reading :=
  match _found : cursor.read with
  | .error failure here => ⟨[], some failure, here⟩
  | .ok token behind =>
      if _last : token.kind = .eof ∨ token.kind ∈ stop then ⟨[token], none, behind⟩
      else
        let following := behind.readThrough stop
        { following with tokens := token :: following.tokens }
termination_by cursor.rest.length
decreasing_by exact Cursor.read_shrinks _found fun isEnd => _last (.inl isEnd)

/-- A reading that was not stopped has all the tokens asked for. -/
theorem length_readMany {count : Nat} {cursor : Cursor}
    (complete : (cursor.readMany count).failure? = none) :
    (cursor.readMany count).tokens.length = count := by
  induction count generalizing cursor with
  | zero => rfl
  | succ count ih =>
      unfold readMany at complete ⊢
      split at complete
      case h_1 => cases complete
      case h_2 token behind heq =>
        simp only [List.length_cons]
        rw [ih complete]

end Cursor

/-! ## The lookahead reader -/

/-- A place in a source text, with the tokens that were read ahead of it. -/
structure Lookahead where
  /-- Tokens that were looked at but not taken, the next one first. -/
  queue : List Token
  /-- The place behind the queued tokens. -/
  cursor : Cursor

namespace Lookahead

/-- The reader in front of a text. -/
def ofSource (source : String) : Lookahead :=
  ⟨[], .ofSource source⟩

/-- Queues what a reading gave, and fails if the reading was stopped. -/
def enqueue (reading : Reading) : EStateM LexError Lookahead Unit := fun reader =>
  let reader := ⟨reader.queue ++ reading.tokens, reading.cursor⟩
  match reading.failure? with
  | none => .ok () reader
  | some failure => .error failure reader

/-- Reads ahead until at least `count` tokens are queued. -/
def fill (count : Nat) : EStateM LexError Lookahead Unit := fun reader =>
  enqueue (reader.cursor.readMany (count - reader.queue.length)) reader

/-- After a successful `fill` there are enough tokens in the queue. -/
theorem fill_length {count : Nat} {reader filled : Lookahead}
    (h : fill count reader = .ok () filled) : count ≤ filled.queue.length := by
  unfold fill enqueue at h
  simp only at h
  split at h
  case h_1 complete =>
    cases h
    simp only [List.length_append, Cursor.length_readMany complete]
    omega
  case h_2 => cases h

/-- Takes the next token: the first of the queue, else a new one from the text. -/
def next : EStateM LexError Lookahead Token := fun reader =>
  match reader.queue with
  | token :: queue => .ok token { reader with queue }
  | [] =>
      match reader.cursor.read with
      | .ok token behind => .ok token { reader with cursor := behind }
      | .error failure here => .error failure { reader with cursor := here }

/-- Looks at the token `n` places behind the next one. Only the tokens up to it are read. -/
def peekNth (n : Nat) : EStateM LexError Lookahead Token := fun reader =>
  match h : fill (n + 1) reader with
  | .ok () filled => .ok (filled.queue.get ⟨n, fill_length h⟩) filled
  | .error failure filled => .error failure filled

/-- Looks at the next token. -/
def peek : EStateM LexError Lookahead Token :=
  peekNth 0

/-- The part of a list up to and including the first element of a class, if there is one. -/
def takeThrough (p : Token → Bool) : List Token → Option (List Token)
  | [] => none
  | token :: rest => if p token then some [token] else (takeThrough p rest).map (token :: ·)

/-- Looks at all tokens up to and including the first of one of the given kinds, or the end token. -/
def peekUntil (stop : List TokenKind) : EStateM LexError Lookahead (List Token) := fun reader =>
  match takeThrough (fun token => token.kind = .eof || token.kind ∈ stop) reader.queue with
  | some seen => .ok seen reader
  | none =>
      match enqueue (reader.cursor.readThrough stop) reader with
      | .ok () filled => .ok filled.queue filled
      | .error failure filled => .error failure filled

/-! ## Progress

Whoever takes tokens in a loop needs to know that the loop ends. The end token can be queued again and
again, so the queue alone is no measure: only its other tokens count, and the characters behind it. -/

/-- The tokens in a queue that are not the end token. -/
def inner (queue : List Token) : Nat :=
  queue.countP fun token => token.kind ≠ .eof

/-- A bound on the number of tokens before the end. -/
def size (reader : Lookahead) : Nat :=
  inner reader.queue + reader.cursor.rest.length

theorem inner_append (first second : List Token) :
    inner (first ++ second) = inner first + inner second :=
  List.countP_append

theorem inner_cons (token : Token) (queue : List Token) :
    inner (token :: queue) = inner queue + if token.kind = .eof then 0 else 1 := by
  unfold inner
  rw [List.countP_cons]
  by_cases hlast : token.kind = .eof <;> simp [hlast]

/-- Tokens that are read ahead pay for themselves in characters. -/
theorem size_readMany (count : Nat) (cursor : Cursor) :
    inner (cursor.readMany count).tokens + (cursor.readMany count).cursor.rest.length
      ≤ cursor.rest.length := by
  induction count generalizing cursor with
  | zero => simp [Cursor.readMany, inner]
  | succ count ih =>
      unfold Cursor.readMany
      split
      case h_1 failure here hread =>
        simpa [inner] using Cursor.length_read_error hread
      case h_2 token behind hread =>
        have hrest := ih behind
        simp only [inner_cons]
        by_cases hlast : token.kind = .eof
        · have hle := Cursor.length_read hread
          rw [if_pos hlast]
          omega
        · have hlt := Cursor.read_shrinks hread hlast
          rw [if_neg hlast]
          omega

theorem size_fill {count : Nat} {reader filled : Lookahead}
    (h : fill count reader = .ok () filled) : filled.size ≤ reader.size := by
  have hread := size_readMany (count - reader.queue.length) reader.cursor
  unfold fill enqueue at h
  simp only at h
  split at h
  case h_1 =>
    cases h
    simp only [size, inner_append]
    omega
  case h_2 => cases h

/-- Looking ahead takes nothing. -/
theorem size_peekNth {n : Nat} {reader filled : Lookahead} {token : Token}
    (h : peekNth n reader = .ok token filled) : filled.size ≤ reader.size := by
  unfold peekNth at h
  split at h
  case h_1 hfill =>
    cases h
    exact size_fill hfill
  case h_2 => cases h

/-- A token that was looked at is the first of the queue. -/
theorem queue_of_peek {reader filled : Lookahead} {token : Token}
    (h : peekNth 0 reader = .ok token filled) : ∃ rest, filled.queue = token :: rest := by
  unfold peekNth at h
  split at h
  case h_1 filled hfill =>
    cases h
    refine ⟨filled.queue.tail, ?_⟩
    rw [List.get_eq_getElem, List.getElem_zero, List.cons_head_tail]
  case h_2 => cases h

theorem next_of_queue {reader : Lookahead} {token : Token} {rest : List Token}
    (h : reader.queue = token :: rest) : next reader = .ok token { reader with queue := rest } := by
  unfold next
  rw [h]

theorem size_next {reader behind : Lookahead} {token : Token}
    (h : next reader = .ok token behind) : behind.size ≤ reader.size := by
  unfold next at h
  split at h
  case h_1 first queue hqueue =>
    cases h
    simp only [size, hqueue, inner_cons]
    omega
  case h_2 hqueue =>
    split at h
    case h_1 hread =>
      cases h
      have hle := Cursor.length_read hread
      simp only [size]
      omega
    case h_2 => cases h

/-- Taking a token that was looked at comes closer to the end, unless it is the end token. -/
theorem size_next_lt {reader filled behind : Lookahead} {seen taken : Token}
    (hpeek : peekNth 0 reader = .ok seen filled) (hinner : seen.kind ≠ .eof)
    (hnext : next filled = .ok taken behind) : behind.size < reader.size := by
  obtain ⟨rest, hqueue⟩ := queue_of_peek hpeek
  rw [next_of_queue hqueue] at hnext
  cases hnext
  have hle := size_peekNth hpeek
  simp only [size, hqueue, inner_cons, if_neg hinner] at hle ⊢
  omega

/-! ## Requests -/

/-- What can be asked of a lookahead reader. -/
inductive Request where
  /-- Take the next token. -/
  | next
  /-- Look at the next token. -/
  | peek
  /-- Look at the token `n` places behind the next one. -/
  | peekNth (n : Nat)
  /-- Look at all tokens up to one of these kinds. -/
  | peekUntil (stop : List TokenKind)

/-- What a lookahead reader answers. -/
inductive Answer where
  /-- One token. -/
  | token (token : Token)
  /-- Several tokens. -/
  | tokens (tokens : List Token)
deriving DecidableEq

/-- Performs a request. -/
def perform : Request → EStateM LexError Lookahead Answer
  | .next => return .token (← next)
  | .peek => return .token (← peek)
  | .peekNth n => return .token (← peekNth n)
  | .peekUntil stop => return .tokens (← peekUntil stop)

end Lookahead

end ModuleLang
