import ModuleLang.Proofs.Token.Replay
import ModuleLang.Proofs.Token.Stepwise
import ModuleLang.Proofs.Token.Written
import ModuleLang.Token.Indexed

/-!
# `Proofs.Token.Indexed` — reading by index is reading

The reader on an array counts its place up and cuts lexemes and tokens out by index. It gives the answers of the
lookahead reader, which has no index that could go wrong. So it makes no access that is out of range, and all that
is known of the one reader is known of the other.

## Contents
- **Simulation** (`Agrees`, `Simulates`): the same value or the same failure, and states that show as each other. An access
  that is out of range agrees with nothing. Simulation is closed under sequences (`Simulates.bind`) and sessions
  (`Simulates.session`).
- **Cursors** (`IndexedCursor.view`, `IndexedCursor.InRange`): the loops stop where the runs of characters end
  (`view_skipBlanks`, `view_munch`), and the slice of a run is the run (`Took.lexeme_eq`). So one token is read alike
  (`simulates_read`).
- **Readers** (`IndexedReader.view`): the loops over the queue, by their own inductions (`agrees_fill`,
  `agrees_countThrough`, `takeAll_stream`), and from them all requests (`simulates_perform`) and `scan_eq`.
-/

namespace ModuleLang

open Unicode (isWhiteSpace)

/-! ## Simulation -/

section Simulation

variable {σ τ α β : Type} {valid : σ → Prop} {view : σ → τ}

/-- **Two results agree**: they are the same value or the same failure, and the state of the one, which is valid, shows
    as the state of the other. -/
inductive Agrees (valid : σ → Prop) (view : σ → τ) :
    EStateM.Result Stop σ α → EStateM.Result LexError τ α → Prop where
  | ok {a : α} {state : σ} : valid state → Agrees valid view (.ok a state) (.ok a (view state))
  | failed {failure : LexError} {state : σ} : valid state →
      Agrees valid view (.error (.failed failure) state) (.error failure (view state))

theorem Agrees.of_ok {a : α} {state : σ} {result : EStateM.Result LexError τ α}
    (h : Agrees valid view (.ok a state) result) : result = .ok a (view state) ∧ valid state := by
  cases h with
  | ok hvalid => exact ⟨rfl, hvalid⟩

theorem Agrees.of_error {why : Stop} {state : σ} {result : EStateM.Result LexError τ α}
    (h : Agrees valid view (.error why state) result) :
    ∃ failure, why = .failed failure ∧ result = .error failure (view state) ∧ valid state := by
  cases h with
  | failed hvalid => exact ⟨_, rfl, rfl, hvalid⟩

/-- **One operation simulates another**: from valid states their results agree. -/
def Simulates (valid : σ → Prop) (view : σ → τ) (p : EStateM Stop σ α) (q : EStateM LexError τ α) : Prop :=
  ∀ state, valid state → Agrees valid view (p state) (q (view state))

theorem Simulates.pure (a : α) : Simulates valid view (pure a) (pure a) := by
  intro state hvalid
  exact .ok hvalid

theorem Simulates.bind {p : EStateM Stop σ α} {q : EStateM LexError τ α} {f : α → EStateM Stop σ β}
    {g : α → EStateM LexError τ β} (hp : Simulates valid view p q) (hf : ∀ a, Simulates valid view (f a) (g a)) :
    Simulates valid view (p >>= f) (q >>= g) := by
  intro state hvalid
  have hfirst := hp state hvalid
  cases hrun : p state with
  | ok a between =>
      rw [hrun] at hfirst
      obtain ⟨hrun', hbetween⟩ := hfirst.of_ok
      rw [bind_of_ok hrun, bind_of_ok hrun']
      exact hf a between hbetween
  | error why left =>
      rw [hrun] at hfirst
      obtain ⟨failure, rfl, hrun', hleft⟩ := hfirst.of_error
      rw [bind_of_error hrun, bind_of_error hrun']
      exact .failed hleft

/-- **Sessions.** If each request is simulated, then a session gives the answers of the other session, and its state
    shows as the state of the other session. -/
theorem Simulates.session {ρ : Type} {perform : ρ → EStateM Stop σ α} {perform' : ρ → EStateM LexError τ α}
    (h : ∀ request, Simulates valid view (perform request) (perform' request)) (requests : List ρ) {state : σ}
    (hvalid : valid state) :
    (session perform state requests).1 =
        (session perform' (view state) requests).1.map (Except.mapError Stop.failed) ∧
      view (session perform state requests).2 = (session perform' (view state) requests).2 ∧
      valid (session perform state requests).2 := by
  induction requests generalizing state with
  | nil => exact ⟨rfl, rfl, hvalid⟩
  | cons request requests ih =>
      have hfirst := h request state hvalid
      simp only [ModuleLang.session]
      generalize perform request state = result at hfirst
      generalize perform' request (view state) = result' at hfirst
      cases hfirst with
      | ok hleft =>
          obtain ⟨hanswers, hview, hend⟩ := ih hleft
          exact ⟨congrArg (_ :: ·) hanswers, hview, hend⟩
      | failed hleft =>
          obtain ⟨hanswers, hview, hend⟩ := ih hleft
          exact ⟨congrArg (_ :: ·) hanswers, hview, hend⟩

end Simulation

/-! ## Cursors -/

theorem Cursor.take_cons_of_pos {p : Char → Bool} {c : Char} {rest : List Char} {location : Location}
    (h : p c = true) : (take ⟨c :: rest, location⟩ p).2 = (take ⟨rest, location.after c⟩ p).2 := by
  simp only [take, List.takeWhile_cons_of_pos h, List.dropWhile_cons_of_pos h, Location.afterAll_cons]

theorem Cursor.take_of_head {p : Char → Bool} {cursor : Cursor} (h : ∀ c ∈ cursor.rest.head?, p c = false) :
    (cursor.take p).2 = cursor := by
  have hrun := take_run (List.forall_mem_nil (p · = true)) h cursor.location
  exact congrArg Prod.snd hrun

namespace IndexedCursor

variable {text : Array Char}

/-- **A cursor is in range**: the token begins at the cursor or before, and the cursor is in the text or at its end. -/
structure InRange (cursor : IndexedCursor text) : Prop where
  /-- The token does not begin behind the cursor. -/
  start_le : cursor.start ≤ cursor.current
  /-- The cursor is not behind the text. -/
  current_le : cursor.current ≤ text.size

theorem inRange_origin : (origin : IndexedCursor text).InRange :=
  ⟨Nat.le_refl 0, Nat.zero_le _⟩

/-- What a cursor shows: the characters from the index on, and where they begin. -/
def view (cursor : IndexedCursor text) : Cursor :=
  ⟨text.toList.drop cursor.current, cursor.location⟩

theorem length_rest_view (cursor : IndexedCursor text) :
    cursor.view.rest.length = text.size - cursor.current := by
  simp [view]

theorem rest_view_of_end {cursor : IndexedCursor text} (h : text.size ≤ cursor.current) : cursor.view.rest = [] := by
  simp [view, h]

/-- In front of the end of the text the next character is the first that is shown. -/
theorem rest_view_of_lt {cursor : IndexedCursor text} (h : cursor.current < text.size) :
    cursor.view.rest = cursor.char :: text.toList.drop (cursor.current + 1) := by
  have hlength : cursor.current < text.toList.length := h
  have hchar : cursor.char = text[cursor.current] := by
    rw [char, Array.getElem?_eq_getElem h, Option.getD_some]
  rw [view, List.drop_eq_getElem_cons hlength, hchar, Array.getElem_toList]

theorem location_pass (cursor : IndexedCursor text) : cursor.pass.location = cursor.location.after cursor.char := by
  unfold pass Location.after
  split <;> rfl

/-- Passing a character takes it from what is shown. -/
theorem view_of_pass {cursor : IndexedCursor text} (h : cursor.current < text.size) :
    cursor.view = ⟨cursor.char :: cursor.pass.view.rest, cursor.location⟩ ∧
      cursor.pass.view = ⟨cursor.pass.view.rest, cursor.location.after cursor.char⟩ := by
  constructor
  · rw [Cursor.mk.injEq]
    refine ⟨?_, rfl⟩
    rw [rest_view_of_lt h, view, current_pass]
  · rw [← location_pass]
    rfl

/-- What is shown begins with the next character, if with any. -/
theorem head_view {cursor : IndexedCursor text} {c : Char} (h : c ∈ cursor.view.rest.head?) :
    cursor.current < text.size ∧ c = cursor.char := by
  by_cases hlt : cursor.current < text.size
  · rw [rest_view_of_lt hlt] at h
    exact ⟨hlt, (Option.mem_some_iff.mp h).symm⟩
  · rw [rest_view_of_end (Nat.le_of_not_lt hlt)] at h
    cases h

/-! ### The loops over characters -/

/-- Blanks end where they end in what is shown. -/
theorem view_skipBlanks (cursor : IndexedCursor text) : cursor.skipBlanks.view = cursor.view.skipBlanks := by
  fun_induction skipBlanks cursor with
  | case1 cursor hmore ih =>
      simp only [isAtEnd, Bool.and_eq_true, Bool.not_eq_true', decide_eq_false_iff_not, Nat.not_le] at hmore
      obtain ⟨hview, hpass⟩ := view_of_pass hmore.1
      rw [ih, hview, hpass]
      exact (Cursor.take_cons_of_pos hmore.2).symm
  | case2 cursor hend =>
      refine (Cursor.take_of_head fun c hc => ?_).symm
      obtain ⟨hlt, rfl⟩ := head_view hc
      simpa [isAtEnd, hlt] using hend

theorem current_skipBlanks_le {cursor : IndexedCursor text} (h : cursor.current ≤ text.size) :
    cursor.skipBlanks.current ≤ text.size := by
  fun_induction skipBlanks cursor with
  | case1 cursor hmore ih =>
      simp only [isAtEnd, Bool.and_eq_true, Bool.not_eq_true', decide_eq_false_iff_not, Nat.not_le] at hmore
      refine ih ?_
      rw [current_pass]
      exact hmore.1
  | case2 cursor hend => exact h

theorem skipBlanks_of_char {cursor : IndexedCursor text}
    (h : cursor.current < text.size → isWhiteSpace cursor.char = false) : cursor.skipBlanks = cursor := by
  rw [skipBlanks, dif_neg]
  simp only [isAtEnd, Bool.and_eq_true, Bool.not_eq_true', decide_eq_false_iff_not, Nat.not_le]
  rintro ⟨hlt, hblank⟩
  rw [h hlt] at hblank
  cases hblank

/-- A run of a class ends where it ends in what is shown. A line feed, which would begin a new line, is in none of the
    classes. -/
theorem view_munch {p : Char → Bool} {hnull : p '\x00' = false} (hline : p '\n' = false) (cursor : IndexedCursor text) :
    (cursor.munch p hnull).view = (cursor.view.take p).2 := by
  fun_induction munch p hnull cursor with
  | case1 cursor hmore ih =>
      have hne : cursor.char ≠ '\n' := by
        intro hfeed
        rw [hfeed, hline] at hmore
        cases hmore
      have hadvance : cursor.advance = cursor.pass := (if_neg hne).symm
      obtain ⟨hview, hpass⟩ := view_of_pass (lt_of_char hnull hmore)
      rw [ih, hadvance, hview, hpass]
      exact (Cursor.take_cons_of_pos hmore).symm
  | case2 cursor hend =>
      refine (Cursor.take_of_head fun c hc => ?_).symm
      obtain ⟨-, rfl⟩ := head_view hc
      exact Bool.eq_false_iff.mpr hend

theorem start_munch {p : Char → Bool} {hnull : p '\x00' = false} (cursor : IndexedCursor text) :
    (cursor.munch p hnull).start = cursor.start := by
  fun_induction munch p hnull cursor with
  | case1 cursor hmore ih => exact ih
  | case2 cursor hend => rfl

/-! ### Reading one token -/

/-- **A run was taken**: from where the token begins, the characters up to the cursor are the run. -/
structure Took (here : IndexedCursor text) (run : List Char) (behind : IndexedCursor text) : Prop where
  /-- The token begins where the run does. -/
  start : behind.start = here.current
  /-- The run was shown, and what is shown now comes behind it. -/
  text : here.view.rest = run ++ behind.view.rest
  /-- The run was counted. -/
  location : behind.location = here.location.afterAll run

/-- A run that was taken has been passed by the index. -/
theorem Took.current_eq {here behind : IndexedCursor text} {run : List Char} (h : here.Took run behind) :
    behind.current = here.current + run.length := by
  have hstart := congrArg Location.start h.location
  rwa [Location.start_afterAll] at hstart

theorem Took.inRange {here behind : IndexedCursor text} {run : List Char} (h : here.Took run behind)
    (hrange : here.current ≤ text.size) : behind.InRange := by
  have hlength := congrArg List.length h.text
  rw [List.length_append, length_rest_view] at hlength
  have hcurrent := h.current_eq
  have hstart := h.start
  exact ⟨by omega, by omega⟩

/-- **The slice of a run** is in range, and is the run. -/
theorem Took.lexeme_eq {here behind : IndexedCursor text} {run : List Char} (h : here.Took run behind)
    (hrange : here.current ≤ text.size) : lexeme behind = .ok (.ofList run) behind := by
  have hinRange := h.inRange hrange
  have hslice : (text.extract behind.start behind.current).toList = run := by
    rw [Array.toList_extract, h.start, h.current_eq, List.extract_eq_take_drop, Nat.add_sub_cancel_left]
    show (here.view.rest).take run.length = run
    rw [h.text, List.take_left]
  rw [lexeme, guarded, dif_pos ⟨hinRange.start_le, hinRange.current_le⟩, hslice]

/-- A run of a class that is taken from where the token begins. -/
theorem took_munch {p : Char → Bool} {hnull : p '\x00' = false} (hline : p '\n' = false) {here : IndexedCursor text}
    (hstart : here.start = here.current) : here.Took (here.view.take p).1 (here.munch p hnull) := by
  have hview : (here.munch p hnull).view = _ := view_munch hline here
  refine ⟨?_, ?_, ?_⟩
  · rw [start_munch, hstart]
  · rw [hview]
    exact (Cursor.take_eq here.view).1
  · show (here.munch p hnull).view.location = _
    rw [hview]
    rfl

/-- A mark is no line feed, so the index that is counted up passes it. -/
theorem took_mark {kind : TokenKind} {here : IndexedCursor text} (hmark : TokenKind.punctuation? here.char = some kind)
    (hstart : here.start = here.current) (hlt : here.current < text.size) :
    here.Took [here.char] here.advance ∧
      here.advance.view = ⟨text.toList.drop (here.current + 1), here.location.after here.char⟩ := by
  have hne : here.char ≠ '\n' := by
    intro hfeed
    rw [hfeed] at hmark
    cases hmark
  have hadvance : here.advance = here.pass := (if_neg hne).symm
  refine ⟨⟨hstart, rest_view_of_lt hlt, ?_⟩, ?_⟩
  · rw [hadvance, location_pass]
    rfl
  · rw [hadvance, view, current_pass, location_pass]

/-- A word is taken as a run, and its kind is told by the run. -/
theorem word_eq {here : IndexedCursor text} (hstart : here.start = here.current) (hrange : here.current ≤ text.size) :
    word here = .ok (.ofWord (.ofList (here.view.take isWordCharacter).1))
      (here.munch isWordCharacter isWordCharacter_null) := by
  have htook : here.Took _ (here.munch isWordCharacter isWordCharacter_null) := took_munch (by decide) hstart
  have hmunch : (modify (munch isWordCharacter isWordCharacter_null) : EStateM Stop (IndexedCursor text) PUnit) here =
      .ok ⟨⟩ (here.munch isWordCharacter isWordCharacter_null) := rfl
  unfold word
  rw [bind_of_ok hmunch, bind_of_ok (htook.lexeme_eq hrange)]
  rfl

/-- **Taking what begins with the next character.** Some run is taken, and it is the one that is read in what is shown;
    or the character begins no token. -/
theorem takeKind_view {here : IndexedCursor text} (hstart : here.start = here.current)
    (hlt : here.current < text.size) :
    (∃ kind run behind, takeKind here = .ok kind behind ∧ here.Took run behind ∧
      Cursor.readHere here.view = .ok ⟨kind, .ofList run, here.location⟩ behind.view) ∨
    takeKind here = .error (.failed ⟨here.char, here.location⟩) here ∧
      Cursor.readHere here.view = .error ⟨here.char, here.location⟩ here.view := by
  have hrest := rest_view_of_lt hlt
  -- both sides look at the same character, and ask the same questions in the same order
  unfold takeKind Cursor.readHere
  cases hmark : TokenKind.punctuation? here.char with
  | some kind =>
      obtain ⟨htook, hview⟩ := took_mark hmark hstart hlt
      refine .inl ⟨kind, [here.char], here.advance, rfl, htook, ?_⟩
      simp only [hrest, hmark, hview]
      rfl
  | none =>
      by_cases hdigit : isDigit here.char
      · have htook : here.Took _ (here.munch isDigit isDigit_null) := took_munch (by decide) hstart
        refine .inl ⟨.number, _, _, if_pos hdigit, htook, ?_⟩
        simp only [hrest, hmark, hdigit, if_true, view_munch (by decide : isDigit '\n' = false)]
        rfl
      · by_cases hletter : isWordCharacter here.char
        · have htook : here.Took _ (here.munch isWordCharacter isWordCharacter_null) := took_munch (by decide) hstart
          refine .inl ⟨.ofWord (.ofList (here.view.take isWordCharacter).1), _, _, ?_, htook, ?_⟩
          · simp only [hdigit, hletter, if_true, word_eq hstart (Nat.le_of_lt hlt)]
            rfl
          · simp only [hrest, hmark, hdigit, hletter, if_true,
              view_munch (by decide : isWordCharacter '\n' = false)]
            rfl
        · refine .inr ⟨?_, ?_⟩
          · simp only [hdigit, hletter]
            rfl
          · simp only [hrest, hmark, hdigit, hletter]
            rfl

/-- **The three ways in which reading ends**, and that it ends the same way in what is shown: at the end of the text, behind
    a run that was taken, or on a character that begins no token. -/
theorem readHere_cases {here : IndexedCursor text} (hstart : here.start = here.current)
    (hrange : here.current ≤ text.size) :
    (text.size ≤ here.current ∧ readHere here = .ok ⟨.eof, "", here.location⟩ here ∧
      Cursor.readHere here.view = .ok ⟨.eof, "", here.location⟩ here.view) ∨
    (∃ kind run behind, readHere here = .ok ⟨kind, .ofList run, here.location⟩ behind ∧ kind ≠ .eof ∧
      here.current < behind.current ∧ here.Took run behind ∧
      Cursor.readHere here.view = .ok ⟨kind, .ofList run, here.location⟩ behind.view) ∨
    here.current < text.size ∧ readHere here = .error (.failed ⟨here.char, here.location⟩) here ∧
      Cursor.readHere here.view = .error ⟨here.char, here.location⟩ here.view := by
  have hget : (get : EStateM Stop (IndexedCursor text) (IndexedCursor text)) here = .ok here here := rfl
  unfold readHere
  rw [bind_of_ok hget]
  by_cases hend : here.isAtEnd
  · have hpast : text.size ≤ here.current := of_decide_eq_true hend
    refine .inl ⟨hpast, ?_, ?_⟩
    · rw [if_pos hend]
      rfl
    · simp only [Cursor.readHere, rest_view_of_end hpast]
      rfl
  · have hlt : here.current < text.size := by simpa [isAtEnd] using hend
    rw [if_neg hend]
    rcases takeKind_view hstart hlt with ⟨kind, run, behind, htake, htook, hread⟩ | ⟨hfailed, hread⟩
    · obtain ⟨hinner, hgoes⟩ := takeKind_ok htake
      refine .inr (.inl ⟨kind, run, behind, ?_, hinner, hgoes, htook, hread⟩)
      rw [bind_of_ok htake, bind_of_ok (htook.lexeme_eq hrange)]
      rfl
    · exact .inr (.inr ⟨hlt, bind_of_error hfailed, hread⟩)

theorem agrees_readHere {here : IndexedCursor text} (hstart : here.start = here.current)
    (hrange : here.current ≤ text.size) :
    Agrees InRange view (readHere here) (Cursor.readHere here.view) := by
  have hvalid : here.InRange := ⟨Nat.le_of_eq hstart, hrange⟩
  rcases readHere_cases hstart hrange with
    ⟨-, hread, hread'⟩ | ⟨_, _, behind, hread, -, -, htook, hread'⟩ | ⟨-, hread, hread'⟩
  · rw [hread, hread']
    exact .ok hvalid
  · rw [hread, hread']
    exact .ok (htook.inRange hrange)
  · rw [hread, hread']
    exact .failed hvalid

/-- **One token is read alike.** -/
theorem simulates_read : Simulates InRange view (read : EStateM Stop (IndexedCursor text) Token) Cursor.read := by
  intro cursor hvalid
  have hview : cursor.begin.view = cursor.view.skipBlanks := cursor.view_skipBlanks
  rw [read, Cursor.read, ← hview]
  exact agrees_readHere rfl (current_skipBlanks_le hvalid.current_le)

end IndexedCursor

/-! ## Readers -/

namespace IndexedReader

open Lookahead (Request)

variable {text : Array Char} {stop : List TokenKind}

/-- A reader is in range if its cursor is. -/
def InRange (reader : IndexedReader text) : Prop :=
  reader.cursor.InRange

/-- What a reader shows: its queue, and what its cursor shows. -/
def view (reader : IndexedReader text) : Lookahead :=
  ⟨reader.queue, reader.cursor.view⟩

theorem view_ofSource (source : String) : (ofSource source).view = .ofSource source := by
  show (⟨[], ⟨source.toList.toArray.toList.drop 0, .origin⟩⟩ : Lookahead) = _
  rw [List.drop_zero]
  rfl

theorem simulates_next : Simulates InRange view (next : EStateM Stop (IndexedReader text) Token) Lookahead.next := by
  intro reader hvalid
  obtain ⟨queue, cursor⟩ := reader
  cases queue with
  | cons token queue => exact .ok hvalid
  | nil =>
      have hagrees := IndexedCursor.simulates_read cursor hvalid
      unfold next Lookahead.next
      simp only [view]
      cases hread : cursor.read with
      | ok token behind =>
          rw [hread] at hagrees
          obtain ⟨hread', hbehind⟩ := hagrees.of_ok
          rw [hread']
          exact .ok hbehind
      | error why here =>
          rw [hread] at hagrees
          obtain ⟨failure, rfl, hread', hhere⟩ := hagrees.of_error
          rw [hread']
          exact .failed hhere

/-- **Filling the queue** by a loop. -/
theorem agrees_fill (count : Nat) {reader : IndexedReader text} (hvalid : reader.InRange) :
    Agrees InRange view (fill count reader) (Lookahead.fill count reader.view) := by
  fun_induction fill count reader with
  | case1 reader hshort token behind hread ih =>
      have hagrees := IndexedCursor.simulates_read reader.cursor hvalid
      rw [hread] at hagrees
      obtain ⟨hread', hbehind⟩ := hagrees.of_ok
      have hstep : Lookahead.fill count reader.view = _ := Lookahead.fill_of_read hshort hread'
      rw [hstep]
      exact ih hbehind
  | case2 reader hshort why here hread =>
      have hagrees := IndexedCursor.simulates_read reader.cursor hvalid
      rw [hread] at hagrees
      obtain ⟨failure, rfl, hread', hhere⟩ := hagrees.of_error
      have hstep : Lookahead.fill count reader.view = _ := Lookahead.fill_of_error hshort hread'
      rw [hstep]
      exact .failed hhere
  | case3 reader hlong =>
      rw [Lookahead.fill_of_long (Nat.le_of_not_lt hlong)]
      exact .ok hvalid

/-- A look at a place that the queue reaches makes an access that is in range. -/
theorem peekNth_of_fill {n : Nat} {reader filled : IndexedReader text} (h : fill (n + 1) reader = .ok () filled)
    (hn : n < filled.queue.length) : peekNth n reader = .ok filled.queue[n] filled := by
  unfold peekNth
  rw [bind_of_ok h]
  exact dif_pos hn

theorem simulates_peekNth (n : Nat) :
    Simulates InRange view (peekNth n : EStateM Stop (IndexedReader text) Token) (Lookahead.peekNth n) := by
  intro reader hvalid
  have hagrees := agrees_fill (n + 1) hvalid
  cases hfill : fill (n + 1) reader with
  | ok _ filled =>
      rw [hfill] at hagrees
      obtain ⟨hfill', hfilled⟩ := hagrees.of_ok
      -- the queue of the lookahead reader reaches the place, and this queue is the same
      obtain ⟨hn, hpeek⟩ := Lookahead.peekNth_of_fill hfill'
      rw [hpeek, peekNth_of_fill hfill hn]
      exact .ok hfilled
  | error why left =>
      rw [hfill] at hagrees
      obtain ⟨failure, rfl, hfill', hleft⟩ := hagrees.of_error
      have hpeek : peekNth n reader = .error (.failed failure) left := bind_of_error hfill
      rw [Lookahead.peekNth_of_fill_error hfill', hpeek]
      exact .failed hleft

/-! ### Looking up to a kind -/

/-- **One round** of looking behind tokens that were passed: the queue has one more token there, which may have been there
    before, and the look is still the same; or the look fails. -/
theorem peekNth_round {seen : Nat} {reader : IndexedReader text} (hvalid : reader.InRange)
    (hseen : seen ≤ reader.queue.length) (hpassed : ∀ token ∈ reader.queue.take seen, ¬ token.Stops stop) :
    (∃ token left rest, peekNth seen reader = .ok token left ∧ left.InRange ∧
      left.queue = reader.queue.take seen ++ token :: rest ∧
      Lookahead.peekUntil stop reader.view = Lookahead.peekUntil stop left.view) ∨
    ∃ failure left, peekNth seen reader = .error (.failed failure) left ∧ left.InRange ∧
      Lookahead.peekUntil stop reader.view = .error failure left.view := by
  by_cases hlt : seen < reader.queue.length
  · -- the token is queued
    have hfill : fill (seen + 1) reader = .ok () reader := by
      rw [fill, if_neg (by omega)]
    refine .inl ⟨_, reader, reader.queue.drop (seen + 1), peekNth_of_fill hfill hlt, hvalid, ?_, rfl⟩
    rw [← List.drop_eq_getElem_cons hlt, List.take_append_drop]
  · -- the queue ends here, and one token is read
    have hall : reader.queue.take seen = reader.queue := List.take_of_length_le (Nat.le_of_not_lt hlt)
    have hlength : reader.queue.length = seen := by omega
    rw [hall] at hpassed ⊢
    have hagrees := IndexedCursor.simulates_read reader.cursor hvalid
    cases hread : reader.cursor.read with
    | ok token behind =>
        rw [hread] at hagrees
        obtain ⟨hread', hbehind⟩ := hagrees.of_ok
        have hconcat : (reader.queue ++ [token]).length = seen + 1 := by
          rw [List.length_append, List.length_singleton, hlength]
        have hfill : fill (seen + 1) reader = .ok () ⟨reader.queue ++ [token], behind⟩ := by
          rw [fill, if_pos (by omega), hread]
          show fill (seen + 1) ⟨reader.queue ++ [token], behind⟩ = _
          rw [fill, if_neg (by simp only [hconcat]; omega)]
        have hreaches : seen < (reader.queue ++ [token]).length := by omega
        have hpeek := peekNth_of_fill hfill hreaches
        have htoken : (reader.queue ++ [token])[seen] = token := by
          rw [List.getElem_append_right (by omega)]
          simp
        rw [htoken] at hpeek
        refine .inl ⟨token, _, [], hpeek, hbehind, rfl, ?_⟩
        exact Lookahead.peekUntil_of_read hpassed hread'
    | error why here =>
        rw [hread] at hagrees
        obtain ⟨failure, rfl, hread', hhere⟩ := hagrees.of_error
        have hfill : fill (seen + 1) reader = .error (.failed failure) ⟨reader.queue, here⟩ := by
          rw [fill, if_pos (by omega), hread]
        exact .inr ⟨failure, _, bind_of_error hfill, hhere, Lookahead.peekUntil_of_error hpassed hread'⟩

theorem take_concat {seen : Nat} {queue queue' rest : List Token} {token : Token} (hseen : seen ≤ queue.length)
    (hqueue : queue' = queue.take seen ++ token :: rest) :
    seen + 1 ≤ queue'.length ∧ queue'.take (seen + 1) = queue.take seen ++ [token] := by
  have hlength : (queue.take seen).length = seen := List.length_take_of_le hseen
  constructor
  · rw [hqueue, List.length_append, hlength, List.length_cons]
    omega
  · rw [hqueue, List.take_append, hlength]
    simp [List.take_take]

/-- **Counting the tokens of a look.** All that are counted are queued, and they are what the look sees; or the look
    fails. -/
theorem agrees_countThrough (stop : List TokenKind) {seen : Nat} {reader : IndexedReader text} (hvalid : reader.InRange)
    (hseen : seen ≤ reader.queue.length) (hpassed : ∀ token ∈ reader.queue.take seen, ¬ token.Stops stop) :
    (∃ count left, countThrough stop seen reader = .ok count left ∧ left.InRange ∧ count ≤ left.queue.length ∧
      Lookahead.peekUntil stop reader.view = .ok (left.queue.take count) left.view) ∨
    ∃ failure left, countThrough stop seen reader = .error (.failed failure) left ∧ left.InRange ∧
      Lookahead.peekUntil stop reader.view = .error failure left.view := by
  -- on the rounds of the loop: the tokens that were passed stay at the beginning of the queue
  fun_induction countThrough stop seen reader with
  | case1 seen reader why left hpeek =>
      rcases peekNth_round hvalid hseen hpassed with ⟨_, _, _, hround, -⟩ | ⟨failure, left', hround, hleft, hlook⟩
      · cases hpeek.symm.trans hround
      · cases hpeek.symm.trans hround
        exact .inr ⟨failure, left, rfl, hleft, hlook⟩
  | case2 seen reader token left hpeek hstops =>
      rcases peekNth_round hvalid hseen hpassed with ⟨_, _, rest, hround, hleft, hqueue, hlook⟩ | ⟨_, _, hround, -⟩
      · cases hpeek.symm.trans hround
        have htake := take_concat hseen hqueue
        refine .inl ⟨seen + 1, left, rfl, hleft, htake.1, ?_⟩
        rw [hlook, htake.2]
        exact Lookahead.peekUntil_of_queue hqueue hpassed hstops
      · cases hpeek.symm.trans hround
  | case3 seen reader token left hpeek hpasses ih =>
      rcases peekNth_round hvalid hseen hpassed with ⟨_, _, rest, hround, hleft, hqueue, hlook⟩ | ⟨_, _, hround, -⟩
      · cases hpeek.symm.trans hround
        have htake := take_concat hseen hqueue
        have hpassed' : ∀ other ∈ left.queue.take (seen + 1), ¬ other.Stops stop := by
          rw [htake.2]
          exact List.forall_mem_append.mpr ⟨hpassed, List.forall_mem_singleton.mpr hpasses⟩
        rw [hlook]
        exact ih hleft htake.1 hpassed'
      · cases hpeek.symm.trans hround

theorem simulates_peekUntil (stop : List TokenKind) :
    Simulates InRange view (peekUntil stop : EStateM Stop (IndexedReader text) (List Token))
      (Lookahead.peekUntil stop) := by
  intro reader hvalid
  unfold peekUntil
  rcases agrees_countThrough stop hvalid (Nat.zero_le _) nofun with
    ⟨count, left, hcount, hleft, hrange, hlook⟩ | ⟨failure, left, hcount, hleft, hlook⟩
  · have hfirst : firstTokens count left = .ok (left.queue.take count) left := dif_pos hrange
    rw [bind_of_ok hcount, hfirst, hlook]
    exact .ok hleft
  · rw [bind_of_error hcount, hlook]
    exact .failed hleft

/-! ### Requests, and whole texts -/

/-- **Every request** is simulated. -/
theorem simulates_perform (request : Request) :
    Simulates InRange view (perform request : EStateM Stop (IndexedReader text) Lookahead.Answer)
      (Lookahead.perform request) := by
  cases request with
  | next => exact simulates_next.bind fun token => .pure _
  | peek => exact (simulates_peekNth 0).bind fun token => .pure _
  | peekNth n => exact (simulates_peekNth n).bind fun token => .pure _
  | peekUntil stop => exact (simulates_peekUntil stop).bind fun tokens => .pure _

/-- With an empty queue the next token is the one that is read in what the cursor shows. -/
theorem next_cases {reader : IndexedReader text} (hvalid : reader.InRange) (hqueue : reader.queue = []) :
    (∃ token behind, next reader = .ok token ⟨[], behind⟩ ∧ behind.InRange ∧
      reader.cursor.view.read = .ok token behind.view) ∨
    ∃ failure here, next reader = .error (.failed failure) ⟨[], here⟩ ∧
      reader.cursor.view.read = .error failure here.view := by
  obtain ⟨queue, cursor⟩ := reader
  cases hqueue
  have hagrees := IndexedCursor.simulates_read cursor hvalid
  cases hread : cursor.read with
  | ok token behind =>
      rw [hread] at hagrees
      obtain ⟨hread', hbehind⟩ := hagrees.of_ok
      exact .inl ⟨token, behind, by simp only [next, hread], hbehind, hread'⟩
  | error why here =>
      rw [hread] at hagrees
      obtain ⟨failure, rfl, hread', -⟩ := hagrees.of_error
      exact .inr ⟨failure, here, by simp only [next, hread], hread'⟩

/-- **Taking all tokens** with an empty queue. They are the tokens of the stream. -/
theorem takeAll_stream {taken : List Token} {reader : IndexedReader text} (hvalid : reader.InRange)
    (hqueue : reader.queue = []) :
    ∃ left, takeAll taken reader = conclude
      (((TokenStream.ofCursor reader.cursor.view).ending.map fun last =>
        taken ++ ((TokenStream.ofCursor reader.cursor.view).tokens ++ [last])).mapError Stop.failed) left := by
  fun_induction takeAll taken reader with
  | case1 taken reader why left hfailed =>
      rcases next_cases hvalid hqueue with ⟨_, _, hnext, -⟩ | ⟨failure, here, hnext, hread⟩
      · cases hfailed.symm.trans hnext
      · cases hfailed.symm.trans hnext
        rw [TokenStream.ofCursor_of_error hread]
        exact ⟨_, rfl⟩
  | case2 taken reader token left htoken hlast =>
      rcases next_cases hvalid hqueue with ⟨_, behind, hnext, -, hread⟩ | ⟨_, _, hnext, -⟩
      · cases htoken.symm.trans hnext
        rw [TokenStream.ofCursor_of_end hread hlast]
        exact ⟨_, rfl⟩
      · cases htoken.symm.trans hnext
  | case3 taken reader token left htoken hinner ih =>
      rcases next_cases hvalid hqueue with ⟨_, behind, hnext, hbehind, hread⟩ | ⟨_, _, hnext, -⟩
      · cases htoken.symm.trans hnext
        obtain ⟨left, hleft⟩ := ih hbehind rfl
        refine ⟨left, ?_⟩
        rw [hleft, TokenStream.ofCursor_of_read hread hinner]
        simp only [List.append_assoc, List.cons_append, List.nil_append]
      · cases htoken.symm.trans hnext

/-- **Scanning by index is scanning.** -/
theorem scan_eq (source : String) : scan source = (ModuleLang.scan source).mapError Stop.failed := by
  have hvalid : (ofSource source).InRange := IndexedCursor.inRange_origin
  have hview : (ofSource source).cursor.view = .ofSource source := congrArg Lookahead.cursor (view_ofSource source)
  obtain ⟨left, hall⟩ := @takeAll_stream _ [] _ hvalid rfl
  rw [hview] at hall
  simp only [scan, hall, ModuleLang.scan, TokenStream.ofSource, List.nil_append]
  cases (TokenStream.ofCursor (Cursor.ofSource source)).ending <;> rfl

end IndexedReader

end ModuleLang
