import ModuleLang.Check

/-!
# `Proofs.Check.Exactness` — the first line that is not as it should be

The check for the same lines goes through both lists of lines at once. It stops where one of them ends before the
other, or where their lines differ. All lines before that place are the same in both lists, so the place is the first
at which the lists differ at all, and the report names it.

## Contents
- **The specification** (`FirstDifference`): the least place at which two lists differ, where the lines may differ or
  one list may have no line. There is one such place (`FirstDifference.unique`).
- **The scan** (`firstMismatch_eq_none_iff`, `Tells`, `firstMismatch_tells`): nothing is found in the same list twice;
  else what is found is told by the first difference.
- **Lines of a trimmed text** (`Text.lines_trim`): what stands between its line feeds, without a carriage return at the
  end.
- **`checkExact_first_difference`**: what the check decides, and what it reports.
-/

namespace ModuleLang

namespace Check

/-! ## The specification -/

/-- **The first difference** of two lists of lines: at this place they differ, or one has ended, and at all places
    before it they have the same line. -/
def FirstDifference (given wanted : List String) (i : Nat) : Prop :=
  given[i]? ≠ wanted[i]? ∧ ∀ j < i, given[j]? = wanted[j]?

/-- The same line in front of both lists moves the first difference by one. -/
theorem FirstDifference.cons {given wanted : List String} {i : Nat} (h : FirstDifference given wanted i)
    (line : String) : FirstDifference (line :: given) (line :: wanted) (i + 1) := by
  obtain ⟨hdiffer, hsame⟩ := h
  constructor
  · simpa using hdiffer
  · intro j hj
    cases j with
    | zero => rfl
    | succ j =>
        have hprevious := hsame j (by omega)
        simpa using hprevious

/-- There is one first difference. -/
theorem FirstDifference.unique {given wanted : List String} {i j : Nat} (hi : FirstDifference given wanted i)
    (hj : FirstDifference given wanted j) : i = j := by
  rcases Nat.lt_trichotomy i j with hlt | heq | hlt
  · exact absurd (hj.2 i hlt) hi.1
  · exact heq
  · exact absurd (hi.2 j hlt) hj.1

/-! ## The scan -/

/-- **What is told of the first difference**, if the lists begin with line `index`: which of them has ended there, or
    which two lines they have there. -/
inductive Tells (index : Nat) (given wanted : List String) : Mismatch → Prop where
  | missing {i : Nat} : FirstDifference given wanted i → given.length = i →
      Tells index given wanted (.missing (index + i))
  | surplus {i : Nat} : FirstDifference given wanted i → wanted.length = i →
      Tells index given wanted (.surplus (index + i))
  | different {i : Nat} {line line' : String} : FirstDifference given wanted i → given[i]? = some line →
      wanted[i]? = some line' → Tells index given wanted (.different (index + i) line line')

/-- What is told of the lists behind the first line is told of the lists with that line. -/
theorem Tells.cons {index : Nat} {given wanted : List String} {mismatch : Mismatch}
    (h : Tells (index + 1) given wanted mismatch) (line : String) :
    Tells index (line :: given) (line :: wanted) mismatch := by
  have hplace (i : Nat) : index + 1 + i = index + (i + 1) := by omega
  cases h with
  | missing hfirst hlength =>
      rw [hplace]
      apply Tells.missing (hfirst.cons line)
      rw [List.length_cons, hlength]
  | surplus hfirst hlength =>
      rw [hplace]
      apply Tells.surplus (hfirst.cons line)
      rw [List.length_cons, hlength]
  | different hfirst hline hline' =>
      rw [hplace]
      apply Tells.different (hfirst.cons line)
      · rwa [List.getElem?_cons_succ]
      · rwa [List.getElem?_cons_succ]

/-- **No mismatch is found** if and only if the lists are the same. -/
theorem firstMismatch_eq_none_iff {index : Nat} {given wanted : List String} :
    firstMismatch index given wanted = none ↔ given = wanted := by
  induction given generalizing index wanted with
  | nil =>
      cases wanted with
      | nil => simp [firstMismatch]
      | cons line' wanted => simp [firstMismatch]
  | cons line given ih =>
      cases wanted with
      | nil => simp [firstMismatch]
      | cons line' wanted =>
          unfold firstMismatch
          by_cases hline : line = line'
          · rw [if_pos hline, ih, hline, List.cons.injEq, and_iff_right rfl]
          · rw [if_neg hline, List.cons.injEq]
            simp [hline]

/-- **A mismatch that is found** is what is told of the first difference. -/
theorem firstMismatch_tells {index : Nat} {given wanted : List String} {mismatch : Mismatch}
    (h : firstMismatch index given wanted = some mismatch) : Tells index given wanted mismatch := by
  induction given generalizing index wanted with
  | nil =>
      cases wanted with
      | nil => simp [firstMismatch] at h
      | cons line' wanted =>
          simp only [firstMismatch, Option.some.injEq] at h
          subst h
          have hfirst : FirstDifference [] (line' :: wanted) 0 := ⟨by simp, by simp⟩
          exact .missing hfirst rfl
  | cons line given ih =>
      cases wanted with
      | nil =>
          simp only [firstMismatch, Option.some.injEq] at h
          subst h
          have hfirst : FirstDifference (line :: given) [] 0 := ⟨by simp, by simp⟩
          exact .surplus hfirst rfl
      | cons line' wanted =>
          unfold firstMismatch at h
          by_cases hline : line = line'
          · rw [if_pos hline] at h
            subst hline
            exact (ih h).cons line
          · rw [if_neg hline, Option.some.injEq] at h
            subst h
            have hfirst : FirstDifference (line :: given) (line' :: wanted) 0 := ⟨by simp [hline], by simp⟩
            exact .different hfirst rfl rfl

end Check

/-! ## Lines of a trimmed text -/

namespace Text

open Unicode (isWhiteSpace)

/-- Every piece but the last one loses a carriage return at its end. The last piece is a line only if it is not
    empty. -/
theorem linesOfPieces_concat (pieces : List (List Char)) (last : List Char) :
    linesOfPieces (pieces ++ [last]) = pieces.map dropReturn ++ if last = [] then [] else [last] := by
  induction pieces with
  | nil => rfl
  | cons piece pieces ih =>
      cases pieces with
      | nil => rfl
      | cons next pieces => exact congrArg (dropReturn piece :: ·) ih

/-- The last piece between line feeds is the whole run, or stands behind a line feed at its end. -/
theorem exists_splitOn_concat (run : List Char) :
    ∃ pieces last, run.splitOn '\n' = pieces ++ [last] ∧ (last = run ∨ '\n' :: last <:+ run) := by
  by_cases hmem : '\n' ∈ run
  · obtain ⟨behind, front, hreverse, hbehind⟩ := List.eq_append_cons_of_mem (List.mem_reverse.mpr hmem)
    have hrun : run = front.reverse ++ '\n' :: behind.reverse := by
      rw [← List.reverse_reverse run, hreverse]
      simp
    have hpiece : behind.reverse.splitOn '\n' = [behind.reverse] := List.splitOn_eq_singleton (by simpa using hbehind)
    refine ⟨front.reverse.splitOn '\n', behind.reverse, ?_, .inr ⟨front.reverse, hrun.symm⟩⟩
    rw [hrun, List.splitOn_append_cons_self, hpiece]
  · exact ⟨[], run, List.splitOn_eq_singleton hmem, .inl rfl⟩

/-- A trimmed text does not end with a blank. -/
theorem not_blank_of_getLast?_trimChars (run : List Char) :
    ∀ c ∈ (trimChars run).getLast?, isWhiteSpace c = false := by
  intro c hc
  rw [trimChars, List.getLast?_reverse] at hc
  have hhead := List.head?_dropWhile_not isWhiteSpace (run.dropWhile isWhiteSpace).reverse
  rw [Option.mem_def.mp hc] at hhead
  exact hhead

/-- **Lines of a trimmed text** are what stands between its line feeds, each without a carriage return at its end. An
    empty text has none. -/
theorem lines_trim (text : String) :
    lines (trim text) =
      if trim text = "" then []
      else (splitLines (trim text)).map fun line => String.ofList (dropReturn line.toList) := by
  have hend := not_blank_of_getLast?_trimChars text.toList
  have hrun : (trim text).toList = trimChars text.toList := String.toList_ofList
  rw [← hrun] at hend
  obtain ⟨pieces, last, hsplit, hlast⟩ := exists_splitOn_concat (trim text).toList
  by_cases hempty : trim text = ""
  · rw [if_pos hempty, hempty]
    rfl
  · have hne : (trim text).toList ≠ [] := fun hnil => hempty (String.toList_eq_nil_iff.mp hnil)
    -- the last piece ends as the text does, so it is a line, and has no carriage return at its end
    have hpiece : last ≠ [] ∧ last.getLast? = (trim text).toList.getLast? := by
      rcases hlast with rfl | ⟨front, hfront⟩
      · exact ⟨hne, rfl⟩
      · have hbehind : last ≠ [] := by
          rintro rfl
          have hnewline := hend '\n' (by rw [← hfront]; simp)
          exact absurd hnewline (by decide +kernel)
        refine ⟨hbehind, ?_⟩
        rw [← hfront, List.getLast?_append, List.getLast?_cons_of_ne_nil hbehind,
          List.getLast?_eq_some_getLast hbehind]
        rfl
    obtain ⟨hlastNe, hlastEnd⟩ := hpiece
    have hkeep : dropReturn last = last := by
      unfold dropReturn
      rw [if_neg]
      intro hreturn
      have hblank := hend '\r' (by rw [← hlastEnd]; exact hreturn)
      exact absurd hblank (by decide +kernel)
    rw [if_neg hempty, lines, splitLines, hsplit, linesOfPieces_concat, if_neg hlastNe]
    simp [hkeep, Function.comp_def]

end Text

namespace Check

/-! ## The check and its report -/

section Verdicts

variable {actual expected : String}

theorem checkExact_of_none
    (h : firstMismatch 0 (Text.lines (Text.trim actual)) (Text.lines (Text.trim expected)) = none) :
    checkExact actual expected = .ok () := by
  simp only [checkExact, h]

theorem checkExact_of_some {mismatch : Mismatch}
    (h : firstMismatch 0 (Text.lines (Text.trim actual)) (Text.lines (Text.trim expected)) = some mismatch) :
    checkExact actual expected = .error mismatch := by
  simp only [checkExact, h]

end Verdicts

/-- The lines that the check compares: what stands between the line feeds of the trimmed text, each without a carriage
    return at its end. An empty text has none. -/
def comparedLines (text : String) : List String :=
  if Text.trim text = "" then []
  else (Text.splitLines (Text.trim text)).map fun line => String.ofList (Text.dropReturn line.toList)

/-- The check fails, with this report for any caller. -/
def FailsWith (actual expected : String) (report : (caller : String) → String) : Prop :=
  ∃ fault, checkExact actual expected = .error fault ∧ ∀ caller, fault.report caller = report caller

/-- **The check decides whether the lines are the same.** If they are not, there is a first difference, and the report
    tells of it: that the output has only the lines before it, or that only those were expected, or which two lines
    are there. -/
theorem checkExact_first_difference (actual expected : String) :
    (checkExact actual expected = .ok () ↔ comparedLines actual = comparedLines expected) ∧
    (comparedLines actual ≠ comparedLines expected →
      ∃ i, FirstDifference (comparedLines actual) (comparedLines expected) i ∧
        ((comparedLines actual).length = i ∧ FailsWith actual expected (fun caller =>
            "Line " ++ toString i ++ " not found in output: called from " ++ caller) ∨
          (comparedLines expected).length = i ∧ FailsWith actual expected (fun caller =>
            "Unexpected line " ++ toString i ++ " in output: called from " ++ caller) ∨
          ∃ line line', (comparedLines actual)[i]? = some line ∧ (comparedLines expected)[i]? = some line' ∧
            FailsWith actual expected fun caller =>
              "assertion `left == right` failed: called from " ++ caller ++ "\n  left: " ++ Text.quoteText line
                ++ "\n right: " ++ Text.quoteText line')) := by
  have hlines (text : String) : comparedLines text = Text.lines (Text.trim text) := (Text.lines_trim text).symm
  rw [hlines, hlines, ← @firstMismatch_eq_none_iff 0]
  cases hmismatch : firstMismatch 0 (Text.lines (Text.trim actual)) (Text.lines (Text.trim expected)) with
  | none =>
      rw [checkExact_of_none hmismatch]
      refine ⟨iff_of_true rfl rfl, fun hdiffer => ?_⟩
      exact absurd (firstMismatch_eq_none_iff.mp hmismatch) hdiffer
  | some mismatch =>
      have hcheck := checkExact_of_some hmismatch
      refine ⟨iff_of_false (by rw [hcheck]; exact nofun) nofun, fun _ => ?_⟩
      cases firstMismatch_tells hmismatch with
      | @missing i hfirst hlength =>
          rw [Nat.zero_add] at hcheck
          exact ⟨i, hfirst, .inl ⟨hlength, _, hcheck, fun caller => rfl⟩⟩
      | @surplus i hfirst hlength =>
          rw [Nat.zero_add] at hcheck
          exact ⟨i, hfirst, .inr (.inl ⟨hlength, _, hcheck, fun caller => rfl⟩)⟩
      | @different i line line' hfirst hline hline' =>
          exact ⟨i, hfirst, .inr (.inr ⟨line, line', hline, hline', _, hcheck, fun caller => rfl⟩)⟩

/-- A first difference of each sort is in the second line: the output has none, none was expected, or a tab was expected
    where there is a space. The first lines are the same, and so are all lines of two texts that differ in a blank at the
    end and in carriage returns in front of line feeds. -/
theorem checkExact_first_difference_of_each_sort :
    FailsWith " a\r\n" "a\nb" (fun caller => "Line 1 not found in output: called from " ++ caller) ∧
      FailsWith "a\nb" " a\r\n" (fun caller => "Unexpected line 1 in output: called from " ++ caller) ∧
      FailsWith "a\r\nb c\n" "a\nb\tc" (fun caller => "assertion `left == right` failed: called from " ++ caller
        ++ "\n  left: \"b c\"\n right: \"b\\tc\"") ∧
      checkExact "a\r\nb\r\nc" "a\nb\nc " = .ok () := by
  have hone : comparedLines " a\r\n" = ["a"] := by decide +kernel
  have htwo : comparedLines "a\nb" = ["a", "b"] := by decide +kernel
  have hblank : comparedLines "a\r\nb c\n" = ["a", "b c"] := by decide +kernel
  have htab : comparedLines "a\nb\tc" = ["a", "b\tc"] := by decide +kernel
  have hsame : comparedLines "a\r\nb\r\nc" = comparedLines "a\nb\nc " := by decide +kernel
  have hsecond {line : String} {given wanted : List String} (h : given[0]? ≠ wanted[0]?) :
      FirstDifference (line :: given) (line :: wanted) 1 :=
    FirstDifference.cons ⟨h, nofun⟩ line
  refine ⟨?_, ?_, ?_, (checkExact_first_difference _ _).1.mpr hsame⟩
  · obtain ⟨i, hfirst, hreport⟩ := (checkExact_first_difference " a\r\n" "a\nb").2 (by simp [hone, htwo])
    rw [hone, htwo] at hfirst hreport
    cases hfirst.unique (hsecond nofun)
    rcases hreport with ⟨-, hreport⟩ | ⟨hlength, -⟩ | ⟨_, _, hline, -⟩
    · exact hreport
    · cases hlength
    · cases hline
  · obtain ⟨i, hfirst, hreport⟩ := (checkExact_first_difference "a\nb" " a\r\n").2 (by simp [hone, htwo])
    rw [hone, htwo] at hfirst hreport
    cases hfirst.unique (hsecond nofun)
    rcases hreport with ⟨hlength, -⟩ | ⟨-, hreport⟩ | ⟨_, _, -, hline', -⟩
    · cases hlength
    · exact hreport
    · cases hline'
  · obtain ⟨i, hfirst, hreport⟩ := (checkExact_first_difference "a\r\nb c\n" "a\nb\tc").2 (by simp [hblank, htab])
    rw [hblank, htab] at hfirst hreport
    cases hfirst.unique (hsecond (by decide))
    rcases hreport with ⟨hlength, -⟩ | ⟨hlength, -⟩ | ⟨_, _, hline, hline', fault, hcheck, hreport⟩
    · cases hlength
    · cases hlength
    · cases hline
      cases hline'
      have hquoted : Text.quoteText "b c" = "\"b c\"" ∧ Text.quoteText "b\tc" = "\"b\\tc\"" := by decide +kernel
      refine ⟨fault, hcheck, fun caller => ?_⟩
      rw [hreport, hquoted.1, hquoted.2]
      simp only [String.append_assoc]
      rfl

end Check

end ModuleLang
