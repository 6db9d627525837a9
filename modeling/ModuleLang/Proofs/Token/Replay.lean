import ModuleLang.Proofs.Token.Row
import ModuleLang.Session

/-!
# `Proofs.Token.Replay` — a lookahead reader is a cursor on a fixed row

Four operations share one queue and one place in the text, and each may fail half-way and leave tokens
queued. None of this can be seen from outside: all answers come from the row of the text, at the number of
tokens taken so far.

## Contents
- **The row in front of a reader** (`Lookahead.row`): its queue, and then the row of its cursor. This is the
  invariant. It needs no side condition on the queue, so it holds of every reader.
- **One operation** (`peekNth_row`, `next_row`, `peekUntil_row`): looking keeps the row, also when it fails,
  and taking a token takes the first answer off it.
- **`Replies`**: what a row says to a request, without a reader. There is one reply only (`Replies.unique`),
  and it is the one that is given (`perform_row`).
- **Whole sessions** (`answers_row`, `answers_replay`), by induction on the requests before.
-/

namespace ModuleLang

/-- A result that ends in a state. -/
def conclude {ε σ α : Type} (result : Except ε α) (state : σ) : EStateM.Result ε σ α :=
  match result with
  | .ok a => .ok a state
  | .error failure => .error failure state

/-- A result that ends in a state has one result and one state. -/
theorem conclude_inj {ε σ α : Type} {result result' : Except ε α} {state state' : σ}
    (h : conclude result state = conclude result' state') : result = result' ∧ state = state' := by
  cases result <;> cases result' <;> cases h <;> exact ⟨rfl, rfl⟩

/-- Whether a result is a given error can be decided, also where values cannot be compared. -/
instance decidableEqError {ε α : Type} [DecidableEq ε] (error : ε) :
    (result : Except ε α) → Decidable (result = .error error)
  | .ok _ => .isFalse nofun
  | .error found => decidable_of_iff (found = error) ⟨congrArg Except.error, Except.error.inj⟩

/-- Whether a result is a given value can be decided, also where errors cannot be compared. -/
instance decidableEqOk {ε α : Type} [DecidableEq α] (a : α) : (result : Except ε α) → Decidable (result = .ok a)
  | .error _ => .isFalse nofun
  | .ok found => decidable_of_iff (found = a) ⟨congrArg Except.ok, Except.ok.inj⟩

/-- A session is its first request, and the session on the others from the state that it leaves. -/
theorem session_conclude {ε σ ρ α : Type} {perform : ρ → EStateM ε σ α} {request : ρ}
    {requests : List ρ} {state left : σ} {answer : Except ε α}
    (h : perform request state = conclude answer left) :
    session perform state (request :: requests) =
      (answer :: (session perform left requests).1, (session perform left requests).2) := by
  rw [session, h]
  cases answer <;> rfl

namespace Lookahead

/-- The row in front of a reader. -/
def row (reader : Lookahead) : Row :=
  reader.queue.foldr Row.cons reader.cursor.row

theorem row_ofSource (source : String) : (ofSource source).row = (Cursor.ofSource source).row := rfl

/-! ## Reading ahead -/

/-- Queueing what was read from the cursor keeps the row. -/
theorem row_append (reader : Lookahead) {reading : Reading}
    (hreading : reading.row = reader.cursor.row) :
    row ⟨reader.queue ++ reading.tokens, reading.cursor⟩ = reader.row := by
  unfold row
  rw [List.foldr_append, ← hreading]
  rfl

/-- **Filling the queue.** It succeeds with enough tokens, or fails where the row fails. -/
theorem fill_row (count : Nat) (reader : Lookahead) :
    ∃ filled : Lookahead, filled.row = reader.row ∧
      ((fill count reader = .ok () filled ∧ count ≤ filled.queue.length) ∨
        ∃ failure, fill count reader = .error failure filled ∧ filled.queue.length < count ∧
          filled.cursor.row = Row.failing failure) := by
  have hrow := row_append reader
    (Cursor.row_readMany (count - reader.queue.length) reader.cursor)
  cases hfailure : (reader.cursor.readMany (count - reader.queue.length)).failure? with
  | none =>
      refine ⟨_, hrow, .inl ⟨?_, ?_⟩⟩
      · simp only [fill, enqueue, hfailure]
      · have hlength := Cursor.length_readMany hfailure
        simp only [List.length_append]
        omega
  | some failure =>
      -- what was read before the failure stays queued, and is less than was asked for
      obtain ⟨hlength, hleft⟩ := Cursor.readMany_stopped hfailure
      refine ⟨_, hrow, .inr ⟨failure, ?_, ?_, hleft⟩⟩
      · simp only [fill, enqueue, hfailure]
      · simp only [List.length_append]
        omega

/-- A reader whose queue ends before the `n`-th answer fails there if its cursor does. -/
theorem row_of_failing {reader : Lookahead} {failure : LexError} {n : Nat}
    (hlength : reader.queue.length ≤ n) (hleft : reader.cursor.row = Row.failing failure) :
    reader.row n = .error failure := by
  obtain ⟨more, rfl⟩ := Nat.le.dest hlength
  rw [row, Row.foldr_cons_add, hleft]
  rfl

/-! ## One operation -/

/-- **Looking at a place.** The answer is that of the row, and the row stays. -/
theorem peekNth_row (n : Nat) (reader : Lookahead) :
    ∃ left : Lookahead, peekNth n reader = conclude (reader.row n) left ∧ left.row = reader.row := by
  obtain ⟨filled, hrow, ⟨hfill, hlength⟩ | ⟨failure, hfill, hlength, hleft⟩⟩ := fill_row (n + 1) reader
  · refine ⟨filled, ?_, hrow⟩
    -- the queue reaches the place, and the row begins with the queue
    have htoken : reader.row n = .ok filled.queue[n] := by
      rw [← hrow]
      exact Row.foldr_cons_lt hlength
    unfold peekNth
    split
    case h_1 filled' hfill' =>
      cases hfill.symm.trans hfill'
      rw [htoken]
      rfl
    case h_2 hfill' => cases hfill.symm.trans hfill'
  · refine ⟨filled, ?_, hrow⟩
    -- the queue ends at the failure, before the place, and the failure is for ever
    have hfailure : reader.row n = .error failure := by
      rw [← hrow]
      exact row_of_failing (Nat.le_of_lt_succ hlength) hleft
    unfold peekNth
    split
    case h_1 hfill' => cases hfill.symm.trans hfill'
    case h_2 hfill' =>
      cases hfill.symm.trans hfill'
      rw [hfailure]
      rfl

/-- **Taking a token.** The answer is the first of the row. It is taken off the row, unless it is a failure,
    which stays for ever. -/
theorem next_row (reader : Lookahead) :
    ∃ left : Lookahead, next reader = conclude (reader.row 0) left ∧
      left.row = reader.row.drop (if (reader.row 0).isOk then 1 else 0) := by
  obtain ⟨queue, cursor⟩ := reader
  cases queue with
  | cons token queue => exact ⟨⟨queue, cursor⟩, rfl, (Row.drop_one_cons token _).symm⟩
  | nil =>
      -- nothing is queued, so the token comes from the text
      cases hread : cursor.read with
      | ok token behind =>
          have hrow : row ⟨[], cursor⟩ = Row.cons token behind.row := Cursor.row_of_read hread
          refine ⟨⟨[], behind⟩, ?_, ?_⟩
          · simp only [next, hread, hrow]
            rfl
          · rw [hrow]
            exact (Row.drop_one_cons token _).symm
      | error failure here =>
          have hrow : row ⟨[], cursor⟩ = Row.failing failure := Cursor.row_of_error hread
          refine ⟨⟨[], here⟩, ?_, ?_⟩
          · simp only [next, hread, hrow]
            rfl
          · rw [hrow]
            exact Cursor.row_of_error (Cursor.read_of_error hread)

/-! ### Looking up to a kind -/

/-- **What a look up to a kind sees**: all answers up to and including the first token at which to stop, or
    the failure that comes before there is one. -/
inductive Sees (stop : List TokenKind) (row : Row) : Except LexError (List Token) → Prop where
  /-- The first token at which to stop stands at `place`. -/
  | found {place : Nat} {last : Token} {tokens : List Token} :
      (∀ n < place, ∃ token, row n = .ok token ∧ ¬ token.Stops stop) →
      row place = .ok last → last.Stops stop →
      tokens.length = place + 1 → (∀ n (hn : n < tokens.length), row n = .ok tokens[n]) →
      Sees stop row (.ok tokens)
  /-- The failure stands at `place`, and no token before it is one at which to stop. -/
  | failed {place : Nat} {failure : LexError} :
      (∀ n < place, ∃ token, row n = .ok token ∧ ¬ token.Stops stop) →
      row place = .error failure → Sees stop row (.error failure)

/-- The answers before the place where a look ends are passed, and the answer there is not. Two places that
    are such are one. -/
theorem place_unique {stop : List TokenKind} {row : Row} {place place' : Nat}
    (hpass : ∀ n < place, ∃ token, row n = .ok token ∧ ¬ token.Stops stop)
    (hpass' : ∀ n < place', ∃ token, row n = .ok token ∧ ¬ token.Stops stop)
    (hend : ∀ token, row place = .ok token → token.Stops stop)
    (hend' : ∀ token, row place' = .ok token → token.Stops stop) : place = place' := by
  rcases Nat.lt_trichotomy place place' with hlt | heq | hgt
  · obtain ⟨token, htoken, hpasses⟩ := hpass' place hlt
    exact absurd (hend token htoken) hpasses
  · exact heq
  · obtain ⟨token, htoken, hpasses⟩ := hpass place' hgt
    exact absurd (hend' token htoken) hpasses

/-- A look sees one thing only. -/
theorem Sees.unique {stop : List TokenKind} {row : Row} {first second : Except LexError (List Token)}
    (hfirst : Sees stop row first) (hsecond : Sees stop row second) : first = second := by
  have stops {place last} (hlast : row place = .ok last) (hstops : last.Stops stop) :
      ∀ token, row place = .ok token → token.Stops stop := by
    intro token htoken
    cases hlast.symm.trans htoken
    exact hstops
  have fails {place failure} (hfailure : row place = .error failure) :
      ∀ token, row place = .ok token → token.Stops stop := by
    intro token htoken
    cases hfailure.symm.trans htoken
  cases hfirst with
  | found hpass hlast hstops hlength hrow =>
      cases hsecond with
      | found hpass' hlast' hstops' hlength' hrow' =>
          have hplace := place_unique hpass hpass' (stops hlast hstops) (stops hlast' hstops')
          refine congrArg _ (List.ext_getElem (by omega) fun n hn hn' => ?_)
          exact Except.ok.inj ((hrow n hn).symm.trans (hrow' n hn'))
      | failed hpass' hfailure' =>
          have hplace := place_unique hpass hpass' (stops hlast hstops) (fails hfailure')
          rw [hplace, hfailure'] at hlast
          cases hlast
  | failed hpass hfailure =>
      cases hsecond with
      | found hpass' hlast' hstops' _ _ =>
          have hplace := place_unique hpass hpass' (fails hfailure) (stops hlast' hstops')
          rw [hplace, hlast'] at hfailure
          cases hfailure
      | failed hpass' hfailure' =>
          have hplace := place_unique hpass hpass' (fails hfailure) (fails hfailure')
          rw [hplace, hfailure'] at hfailure
          cases hfailure
          rfl

/-- A look that sees tokens in front of a row. -/
theorem Sees.of_found {stop : List TokenKind} {seen : List Token} {last : Token} {rest : Row}
    (hseen : ∀ token ∈ seen, ¬ token.Stops stop) (hlast : last.Stops stop) :
    Sees stop ((seen ++ [last]).foldr Row.cons rest) (.ok (seen ++ [last])) := by
  refine .found (fun n hn => ?_) ?_ hlast List.length_append fun n hn => Row.foldr_cons_lt hn
  · have hn' : n < (seen ++ [last]).length := by
      rw [List.length_append]
      omega
    refine ⟨_, Row.foldr_cons_lt hn', ?_⟩
    rw [List.getElem_append_left hn]
    exact hseen _ (List.getElem_mem hn)
  · rw [Row.foldr_cons_lt (by simp : seen.length < (seen ++ [last]).length)]
    simp

/-- A look that passes tokens in front of a failure. -/
theorem Sees.of_failing {stop : List TokenKind} {seen : List Token} {failure : LexError}
    (hseen : ∀ token ∈ seen, ¬ token.Stops stop) :
    Sees stop (seen.foldr Row.cons (Row.failing failure)) (.error failure) := by
  refine .failed (fun n hn => ⟨_, Row.foldr_cons_lt hn, hseen _ (List.getElem_mem hn)⟩) ?_
  exact Row.foldr_cons_add seen (Row.failing failure) 0

/-- What the search in the queue finds is the beginning of the queue, up to the first hit. -/
theorem takeThrough_eq_some {p : Token → Bool} {queue found : List Token}
    (h : takeThrough p queue = some found) :
    ∃ seen last rest, found = seen ++ [last] ∧ queue = found ++ rest ∧
      (∀ token ∈ seen, p token = false) ∧ p last = true := by
  induction queue generalizing found with
  | nil => cases h
  | cons token queue ih =>
      rw [takeThrough] at h
      split at h
      case isTrue hhit =>
        cases h
        exact ⟨[], token, queue, rfl, rfl, nofun, hhit⟩
      case isFalse hmiss =>
        obtain ⟨found', hfound', rfl⟩ := Option.map_eq_some_iff.mp h
        obtain ⟨seen, last, rest, rfl, rfl, hseen, hlast⟩ := ih hfound'
        refine ⟨token :: seen, last, rest, rfl, rfl, ?_, hlast⟩
        exact List.forall_mem_cons.mpr ⟨Bool.eq_false_iff.mpr hmiss, hseen⟩

/-- If the search in the queue finds nothing, there is no hit in the queue. -/
theorem takeThrough_eq_none {p : Token → Bool} {queue : List Token}
    (h : takeThrough p queue = none) : ∀ token ∈ queue, p token = false := by
  induction queue with
  | nil => exact nofun
  | cons token queue ih =>
      rw [takeThrough] at h
      split at h
      case isTrue => cases h
      case isFalse hmiss =>
        exact List.forall_mem_cons.mpr
          ⟨Bool.eq_false_iff.mpr hmiss, ih (Option.map_eq_none_iff.mp h)⟩

/-- **Looking up to a kind.** Queued tokens are searched first and the text is read on only behind them, but
    what is seen is what the row says. The row stays, also when the look fails. -/
theorem peekUntil_row (stop : List TokenKind) (reader : Lookahead) :
    ∃ (result : Except LexError (List Token)) (left : Lookahead),
      peekUntil stop reader = conclude result left ∧ Sees stop reader.row result ∧
        left.row = reader.row := by
  have hstops (token : Token) :
      (decide (token.kind = .eof) || decide (token.kind ∈ stop)) = true ↔ token.Stops stop := by
    rw [Bool.or_eq_true, decide_eq_true_eq, decide_eq_true_eq, Token.Stops]
  have hpasses (token : Token) :
      (decide (token.kind = .eof) || decide (token.kind ∈ stop)) = false ↔ ¬ token.Stops stop := by
    rw [← hstops, Bool.not_eq_true]
  unfold peekUntil
  split
  case h_1 found hfound =>
    -- a token at which to stop is queued, and the reader does not move
    obtain ⟨seen, last, rest, rfl, hqueue, hseen, hlast⟩ := takeThrough_eq_some hfound
    refine ⟨.ok (seen ++ [last]), reader, rfl, ?_, rfl⟩
    rw [row, hqueue, List.foldr_append]
    exact .of_found (fun token hmem => (hpasses token).mp (hseen token hmem)) ((hstops last).mp hlast)
  case h_2 hnone =>
    -- the whole queue is passed, and the text decides where the look ends
    have hqueue : ∀ token ∈ reader.queue, ¬ token.Stops stop :=
      fun token hmem => (hpasses token).mp (takeThrough_eq_none hnone token hmem)
    have hrow := row_append reader (Cursor.row_readThrough stop reader.cursor)
    rcases Cursor.readThrough_cases stop reader.cursor with
      ⟨seen, last, hcomplete, htokens, hseen, hlast⟩ | ⟨failure, hstopped, hseen, hleft⟩
    · refine ⟨.ok (reader.queue ++ (reader.cursor.readThrough stop).tokens), _, ?_, ?_, hrow⟩
      · simp only [enqueue, hcomplete]
        rfl
      · rw [← hrow, htokens, ← List.append_assoc]
        exact .of_found (List.forall_mem_append.mpr ⟨hqueue, hseen⟩) hlast
    · refine ⟨.error failure, _, ?_, ?_, hrow⟩
      · simp only [enqueue, hstopped]
        rfl
      · rw [← hrow, row]
        simp only [hleft]
        exact .of_failing (List.forall_mem_append.mpr ⟨hqueue, hseen⟩)

/-! ## Requests and sessions -/

/-- **What a row says to a request.** Positions in the row count from the next token. -/
inductive Replies (row : Row) : Request → Except LexError Answer → Prop where
  | next : Replies row .next ((row 0).map .token)
  | peek : Replies row .peek ((row 0).map .token)
  | peekNth (n : Nat) : Replies row (.peekNth n) ((row n).map .token)
  | peekUntil {stop : List TokenKind} {result : Except LexError (List Token)} :
      Sees stop row result → Replies row (.peekUntil stop) (result.map .tokens)

/-- There is one reply to a request. -/
theorem Replies.unique {row : Row} {request : Request} {first second : Except LexError Answer}
    (hfirst : Replies row request first) (hsecond : Replies row request second) : first = second := by
  cases hfirst with
  | next => cases hsecond; rfl
  | peek => cases hsecond; rfl
  | peekNth n => cases hsecond; rfl
  | peekUntil hsees =>
      cases hsecond with
      | peekUntil hsees' => rw [hsees.unique hsees']

/-- How many tokens a request takes, given how it was answered: one if it is to take a token and that
    succeeds. -/
def Request.takes : Request → Except LexError Answer → Nat
  | .next, .ok _ => 1
  | _, _ => 0

/-- How many tokens some requests took, given the answers to them. Answers to later requests do not
    count. -/
def taken : List Request → List (Except LexError Answer) → Nat
  | request :: requests, answer :: answers => request.takes answer + taken requests answers
  | _, _ => 0

theorem map_conclude {α β : Type} (f : α → β) {step : EStateM LexError Lookahead α}
    {reader left : Lookahead} {result : Except LexError α} (h : step reader = conclude result left) :
    (do return f (← step)) reader = conclude (result.map f) left := by
  simp only [bind, EStateM.bind, h]
  cases result <;> rfl

/-- **One request.** The answer is the reply of the row, and the row loses the tokens that were taken. -/
theorem perform_row (request : Request) (reader : Lookahead) :
    ∃ reply left, perform request reader = conclude reply left ∧ Replies reader.row request reply ∧
      left.row = reader.row.drop (request.takes reply) := by
  cases request with
  | next =>
      obtain ⟨left, hnext, hrow⟩ := next_row reader
      refine ⟨_, left, map_conclude Answer.token hnext, .next, ?_⟩
      rw [hrow]
      cases reader.row 0 <;> rfl
  | peek =>
      obtain ⟨left, hpeek, hrow⟩ := peekNth_row 0 reader
      exact ⟨_, left, map_conclude Answer.token hpeek, .peek, hrow.trans reader.row.drop_zero.symm⟩
  | peekNth n =>
      obtain ⟨left, hpeek, hrow⟩ := peekNth_row n reader
      exact ⟨_, left, map_conclude Answer.token hpeek, .peekNth n, hrow.trans reader.row.drop_zero.symm⟩
  | peekUntil stop =>
      obtain ⟨result, left, hpeek, hsees, hrow⟩ := peekUntil_row stop reader
      exact ⟨_, left, map_conclude Answer.tokens hpeek, .peekUntil hsees, hrow.trans reader.row.drop_zero.symm⟩

/-- The answers that a reader gives to requests, one after the other. -/
def answers (reader : Lookahead) (requests : List Request) : List (Except LexError Answer) :=
  (session perform reader requests).1

theorem answers_cons {request : Request} {reader left : Lookahead} {reply : Except LexError Answer}
    (h : perform request reader = conclude reply left) (requests : List Request) :
    reader.answers (request :: requests) = reply :: left.answers requests := by
  rw [answers, session_conclude h]
  rfl

/-- **Any session.** Whatever was asked before, a request is answered by the row behind the tokens that were
    taken. -/
theorem answers_row (before after : List Request) (request : Request) (reader : Lookahead)
    (reply : Except LexError Answer) :
    (reader.answers (before ++ request :: after))[before.length]? = some reply ↔
      Replies (reader.row.drop (taken before (reader.answers (before ++ request :: after))))
        request reply := by
  -- on the requests before, for all readers at once: the first request leaves another reader, whose row
  -- is the row behind the tokens that the request took
  induction before generalizing reader with
  | nil =>
      obtain ⟨given, left, hperform, hreplies, -⟩ := perform_row request reader
      rw [List.nil_append, answers_cons hperform]
      simp only [List.length_nil, List.getElem?_cons_zero, Option.some.injEq, taken, Row.drop_zero]
      constructor
      · rintro rfl
        exact hreplies
      · exact hreplies.unique
  | cons first before ih =>
      obtain ⟨given, left, hperform, -, hrow⟩ := perform_row first reader
      have hrest := ih left
      rw [hrow, Row.drop_drop] at hrest
      rw [List.cons_append, answers_cons hperform]
      simpa only [List.length_cons, List.getElem?_cons_succ, taken] using hrest

end Lookahead

/-! ## Every session on a text -/

/-- **A reader replays its text.** The row of a text settles. Whatever requests were put to a reader of the
    text before, and whether they succeeded or failed, the answer to the next request is what the row says
    behind the tokens taken so far, and nothing else. So two sessions that took equally many tokens give the
    same answer to the same request. -/
theorem answers_replay (source : String) :
    let row := (Cursor.ofSource source).row
    let reader := Lookahead.ofSource source
    row.Settles ∧
    (∀ before request after reply,
      (reader.answers (before ++ request :: after))[before.length]? = some reply ↔
        Lookahead.Replies (row.drop (Lookahead.taken before (reader.answers (before ++ request :: after))))
          request reply) ∧
    ∀ before before' request after after',
      Lookahead.taken before (reader.answers (before ++ request :: after)) =
        Lookahead.taken before' (reader.answers (before' ++ request :: after')) →
      (reader.answers (before ++ request :: after))[before.length]? =
        (reader.answers (before' ++ request :: after'))[before'.length]? := by
  intro row reader
  have hany (before request after reply) := Lookahead.answers_row before after request reader reply
  refine ⟨Cursor.row_settles _, hany, fun before before' request after after' htaken => ?_⟩
  refine Option.ext fun reply => ?_
  rw [hany before request after reply, hany before' request after' reply, htaken]

/-- A look that fails beyond the next token, and one that sees the next token only, make no difference. -/
theorem answers_replay_around_failure :
    let reader := Lookahead.ofSource "x #"
    (reader.answers [.peekNth 2, .next, .peek])[2]? = (reader.answers [.peek, .next, .next, .peek])[3]? ∧
      (reader.answers [.peekNth 2, .next, .peek])[2]? = some (.error ⟨'#', ⟨0, 2, 2⟩⟩) :=
  ⟨(answers_replay "x #").2.2 [.peekNth 2, .next] [.peek, .next, .next] .peek [] [] (by decide +kernel),
    rfl⟩

end ModuleLang
