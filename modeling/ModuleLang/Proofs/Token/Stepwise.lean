import ModuleLang.Proofs.Token.Row

/-!
# `Proofs.Token.Stepwise` — reading ahead, one token at a time

A lookahead reader reads several tokens at once, with as many reads as are missing, and searches its queue
before it reads. The same comes of reading one token at a time: queue one, and begin again. A reader
that is written as a loop over single tokens is compared with it by these laws.

## Contents
- **Reading through** (`Cursor.readThrough_of_stops`, `readThrough_of_passes`, `readThrough_of_error`), by its first token.
- **Filling the queue** (`Lookahead.fill_of_long`, `fill_of_read`, `fill_of_error`), and looking at a place
  (`peekNth_of_fill`, `peekNth_of_fill_error`).
- **Looking up to a kind** (`peekUntil_of_queue`, `peekUntil_of_read`, `peekUntil_of_error`): it ends in the queue, or goes
  on with one more token in the queue.
-/

namespace ModuleLang

variable {stop : List TokenKind} {token : Token} {failure : LexError}

/-! ## Reading through -/

namespace Cursor

variable {cursor behind here : Cursor}

theorem readThrough_of_stops (hread : cursor.read = .ok token behind) (hstops : token.Stops stop) :
    cursor.readThrough stop = ⟨[token], none, behind⟩ := by
  rw [readThrough]
  split
  case h_1 hread' => cases hread.symm.trans hread'
  case h_2 hread' =>
    cases hread.symm.trans hread'
    exact dif_pos hstops

theorem readThrough_of_passes (hread : cursor.read = .ok token behind) (hpasses : ¬ token.Stops stop) :
    cursor.readThrough stop =
      { behind.readThrough stop with tokens := token :: (behind.readThrough stop).tokens } := by
  rw [readThrough]
  split
  case h_1 hread' => cases hread.symm.trans hread'
  case h_2 hread' =>
    cases hread.symm.trans hread'
    exact dif_neg hpasses

theorem readThrough_of_error (hread : cursor.read = .error failure here) :
    cursor.readThrough stop = ⟨[], some failure, here⟩ := by
  rw [readThrough]
  split
  case h_1 hread' =>
    cases hread.symm.trans hread'
    rfl
  case h_2 hread' => cases hread.symm.trans hread'

end Cursor

namespace Lookahead

variable {reader : Lookahead} {behind here : Cursor}

/-! ## Filling the queue -/

theorem fill_of_long {count : Nat} (h : count ≤ reader.queue.length) : fill count reader = .ok () reader := by
  simp only [fill, Nat.sub_eq_zero_of_le h, Cursor.readMany, enqueue, List.append_nil]

/-- Filling is to queue one token, and to fill what is still wanted. -/
theorem fill_of_read {count : Nat} (hshort : reader.queue.length < count) (hread : reader.cursor.read = .ok token behind) :
    fill count reader = fill count ⟨reader.queue ++ [token], behind⟩ := by
  obtain ⟨more, hmore⟩ := Nat.exists_eq_add_of_lt hshort
  have hleft : count - reader.queue.length = more + 1 := by omega
  have hleft' : count - (reader.queue ++ [token]).length = more := by
    rw [List.length_append, List.length_singleton]
    omega
  simp only [fill, hleft, hleft', Cursor.readMany, hread, enqueue, List.append_assoc, List.singleton_append]

theorem fill_of_error {count : Nat} (hshort : reader.queue.length < count)
    (hread : reader.cursor.read = .error failure here) : fill count reader = .error failure ⟨reader.queue, here⟩ := by
  obtain ⟨more, hmore⟩ := Nat.exists_eq_add_of_lt hshort
  have hleft : count - reader.queue.length = more + 1 := by omega
  simp only [fill, hleft, Cursor.readMany, hread, enqueue, List.append_nil]

/-- Looking at a place is to fill the queue up to the place, and to take the token there. -/
theorem peekNth_of_fill {n : Nat} {filled : Lookahead} (h : fill (n + 1) reader = .ok () filled) :
    ∃ hn : n < filled.queue.length, peekNth n reader = .ok filled.queue[n] filled := by
  refine ⟨fill_length h, ?_⟩
  unfold peekNth
  split
  case h_1 hfill =>
    cases h.symm.trans hfill
    rfl
  case h_2 hfill => cases h.symm.trans hfill

theorem peekNth_of_fill_error {n : Nat} {left : Lookahead} (h : fill (n + 1) reader = .error failure left) :
    peekNth n reader = .error failure left := by
  unfold peekNth
  split
  case h_1 hfill => cases h.symm.trans hfill
  case h_2 hfill =>
    cases h.symm.trans hfill
    rfl

/-! ## Looking up to a kind -/

/-- A search goes on behind tokens that are no hits. -/
theorem takeThrough_append {p : Token → Bool} {seen : List Token} (hseen : ∀ token ∈ seen, p token = false)
    (rest : List Token) : takeThrough p (seen ++ rest) = (takeThrough p rest).map (seen ++ ·) := by
  induction seen with
  | nil => simp
  | cons token seen ih =>
      obtain ⟨hmiss, hrest⟩ := List.forall_mem_cons.mp hseen
      rw [List.cons_append, takeThrough, hmiss, ih hrest]
      cases takeThrough p rest <;> rfl

theorem not_stops_iff : ¬ token.Stops stop ↔ (decide (token.kind = .eof) || decide (token.kind ∈ stop)) = false := by
  simp [Token.Stops]

/-- If all queued tokens are passed, nothing is found in the queue. -/
theorem takeThrough_of_passed {queue : List Token} (hpassed : ∀ token ∈ queue, ¬ token.Stops stop) :
    takeThrough (fun token => decide (token.kind = .eof) || decide (token.kind ∈ stop)) queue = none := by
  have hnone := takeThrough_append (fun token hmem => not_stops_iff.mp (hpassed token hmem)) []
  rwa [List.append_nil] at hnone

/-- A look ends at the first queued token at which to stop. -/
theorem peekUntil_of_queue {seen rest : List Token} (hqueue : reader.queue = seen ++ token :: rest)
    (hpassed : ∀ token ∈ seen, ¬ token.Stops stop) (hstops : token.Stops stop) :
    peekUntil stop reader = .ok (seen ++ [token]) reader := by
  have hhit : (decide (token.kind = .eof) || decide (token.kind ∈ stop)) = true := by
    simpa [Token.Stops] using hstops
  have hfound := takeThrough_append (fun token hmem => not_stops_iff.mp (hpassed token hmem)) (token :: rest)
  rw [takeThrough, if_pos hhit] at hfound
  simp only [peekUntil, hqueue, hfound, Option.map_some]

/-- **A look that has passed the queue** is a look with one more token in the queue. -/
theorem peekUntil_of_read (hpassed : ∀ token ∈ reader.queue, ¬ token.Stops stop)
    (hread : reader.cursor.read = .ok token behind) :
    peekUntil stop reader = peekUntil stop ⟨reader.queue ++ [token], behind⟩ := by
  have hnone := takeThrough_of_passed hpassed
  by_cases hstops : token.Stops stop
  · have hend : peekUntil stop ⟨reader.queue ++ [token], behind⟩ = .ok (reader.queue ++ [token]) _ :=
      peekUntil_of_queue rfl hpassed hstops
    rw [hend]
    simp only [peekUntil, hnone, Cursor.readThrough_of_stops hread hstops, enqueue]
  · have hall : ∀ other ∈ reader.queue ++ [token], ¬ other.Stops stop :=
      List.forall_mem_append.mpr ⟨hpassed, List.forall_mem_singleton.mpr hstops⟩
    simp only [peekUntil, hnone, takeThrough_of_passed hall, Cursor.readThrough_of_passes hread hstops, enqueue,
      List.append_assoc, List.singleton_append]

theorem peekUntil_of_error (hpassed : ∀ token ∈ reader.queue, ¬ token.Stops stop)
    (hread : reader.cursor.read = .error failure here) :
    peekUntil stop reader = .error failure ⟨reader.queue, here⟩ := by
  simp only [peekUntil, takeThrough_of_passed hpassed, Cursor.readThrough_of_error hread, enqueue, List.append_nil]

end Lookahead

end ModuleLang
