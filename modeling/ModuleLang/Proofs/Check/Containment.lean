import Mathlib.Data.List.Forall2
import Mathlib.Data.List.NodupEquivFin
import ModuleLang.Check

/-!
# `Proofs.Check.Containment` — lines that occur in order

The check for lines that occur in an output goes through the expected lines once, and gives each of them the first
line that it can have. It never has to take back a choice: if the expected lines have places at all, then the first
of them can have the first place, and there is no less room behind it for the others.

## Contents
- **The specification** (`wantedLines`, `Occurs`, `Fits`): the expected lines that count, and a strictly increasing
  map from them to lines in which they occur.
- **The exchange** (`fits_cons_iff`): a line and others behind it have places if and only if the others have places
  behind the first place of the line.
- **The scan** (`firstMissing_eq_none_iff`, `firstMissing_eq_some`): no line is missing if and only if all have
  places; else the line is the first that has none behind those before it.
- **`checkContain_places`**: what the check decides, and what its report shows.
-/

namespace ModuleLang.Check

/-! ## The specification -/

/-- The lines that have to occur: those that are not blank, each without the blanks at its ends. -/
def wantedLines (lines : List String) : List String :=
  (lines.map Text.trim).filter (· ≠ "")

/-- Whether a line occurs in another. -/
def Occurs (pattern line : String) : Prop :=
  pattern.toList <:+: line.toList

/-- **The wanted lines have places**: a strictly increasing map to lines in which they occur. -/
def Fits (wanted actual : List String) : Prop :=
  ∃ place : Fin wanted.length → Fin actual.length,
    StrictMono place ∧ ∀ i, Occurs (wanted.get i) (actual.get (place i))

theorem wantedLines_cons_blank {line : String} (h : Text.trim line = "") (lines : List String) :
    wantedLines (line :: lines) = wantedLines lines := by
  simp [wantedLines, h]

theorem wantedLines_cons {line : String} (h : Text.trim line ≠ "") (lines : List String) :
    wantedLines (line :: lines) = Text.trim line :: wantedLines lines := by
  simp [wantedLines, h]

theorem wantedLines_of_begins {first second : List String} (h : first <+: second) :
    wantedLines first <+: wantedLines second :=
  (h.map Text.trim).filter _

/-- **Places, one after the other.** The map picks a list of lines from the actual ones, in their order. -/
theorem fits_iff {wanted actual : List String} : Fits wanted actual ↔ List.SublistForall₂ Occurs wanted actual := by
  rw [List.sublistForall₂_iff]
  constructor
  · rintro ⟨place, hplace, hoccurs⟩
    refine ⟨List.ofFn fun i => actual.get (place i), ?_, ?_⟩
    · rw [List.forall₂_iff_get]
      refine ⟨(List.length_ofFn ..).symm, fun i hi _ => ?_⟩
      rw [List.get_ofFn]
      exact hoccurs ⟨i, hi⟩
    · rw [List.sublist_iff_exists_fin_orderEmbedding_get_eq]
      refine ⟨.ofStrictMono (fun i => place (i.cast (List.length_ofFn ..))) fun i j hij => hplace hij, fun i => ?_⟩
      rw [List.get_ofFn]
      rfl
  · rintro ⟨picked, hoccurs, hsublist⟩
    obtain ⟨place, hplace⟩ := List.sublist_iff_exists_fin_orderEmbedding_get_eq.mp hsublist
    obtain ⟨hlength, hoccurs⟩ := List.forall₂_iff_get.mp hoccurs
    refine ⟨fun i => place (i.cast hlength), fun i j hij => place.strictMono hij, fun i => ?_⟩
    have hfound := hoccurs i i.isLt (hlength ▸ i.isLt)
    rw [← hplace]
    exact hfound

theorem fits_nil (actual : List String) : Fits [] actual :=
  fits_iff.mpr .nil

/-- Without its last lines, a list of lines has places too. -/
theorem Fits.of_begins {wanted fewer actual : List String} (h : Fits wanted actual) (hbegins : fewer <+: wanted) :
    Fits fewer actual := by
  obtain ⟨place, hplace, hoccurs⟩ := h
  refine ⟨fun i => place (i.castLE hbegins.length_le), fun i j hij => hplace hij, fun i => ?_⟩
  have hget : fewer.get i = wanted.get (i.castLE hbegins.length_le) := hbegins.getElem i.isLt
  rw [hget]
  exact hoccurs _

/-- Without its first line, a list of lines has places too. -/
theorem Fits.tail {pattern : String} {wanted actual : List String} (h : Fits (pattern :: wanted) actual) :
    Fits wanted actual := by
  obtain ⟨place, hplace, hoccurs⟩ := h
  exact ⟨fun i => place i.succ, fun i j hij => hplace (Fin.succ_lt_succ_iff.mpr hij), fun i => hoccurs i.succ⟩

/-! ## The exchange -/

/-- A line has the first place, or all lines have places behind it. -/
theorem fits_cons_cons {pattern line : String} {wanted actual : List String} :
    Fits (pattern :: wanted) (line :: actual) ↔
      Occurs pattern line ∧ Fits wanted actual ∨ Fits (pattern :: wanted) actual := by
  simp only [fits_iff]
  constructor
  · intro h
    cases h with
    | cons hfound hrest => exact .inl ⟨hfound, hrest⟩
    | cons_right hrest => exact .inr hrest
  · rintro (⟨hfound, hrest⟩ | hrest)
    · exact .cons hfound hrest
    · exact .cons_right hrest

/-- **The first place is as good as any.** A line and others behind it have places if and only if the line has a
    place, and the others have places behind the first that it has. -/
theorem fits_cons_iff {pattern : String} {wanted actual : List String} :
    Fits (pattern :: wanted) actual ↔ ∃ behind, linesBehind pattern actual = some behind ∧ Fits wanted behind := by
  induction actual with
  | nil =>
      constructor
      · rintro ⟨place, -, -⟩
        exact (place 0).elim0
      · rintro ⟨behind, hbehind, -⟩
        cases hbehind
  | cons line actual ih =>
      rw [fits_cons_cons, linesBehind]
      by_cases hfound : Text.occursIn pattern.toList line.toList = true
      · rw [if_pos hfound]
        constructor
        · rintro (⟨-, hrest⟩ | hlater)
          · exact ⟨actual, rfl, hrest⟩
          · -- the line has a later place: the others fit behind that one, so they fit behind this one
            exact ⟨actual, rfl, hlater.tail⟩
        · rintro ⟨behind, hbehind, hfits⟩
          cases hbehind
          exact .inl ⟨Text.occursIn_iff.mp hfound, hfits⟩
      · rw [if_neg hfound, ← ih]
        constructor
        · rintro (⟨hoccurs, -⟩ | hlater)
          · exact absurd (Text.occursIn_iff.mpr hoccurs) hfound
          · exact hlater
        · exact .inr

/-! ## The scan -/

/-- A line that is not blank takes its first place, and the lines behind it need places behind that one. -/
theorem fits_wantedLines_cons {line : String} {actual behind : List String} (hblank : Text.trim line ≠ "")
    (hplace : linesBehind (Text.trim line) actual = some behind) (lines : List String) :
    Fits (wantedLines (line :: lines)) actual ↔ Fits (wantedLines lines) behind := by
  rw [wantedLines_cons hblank, fits_cons_iff, hplace]
  constructor
  · rintro ⟨_, hbehind, hrest⟩
    cases hbehind
    exact hrest
  · exact fun hrest => ⟨behind, rfl, hrest⟩

/-- A line without a place has none, whatever lines are behind it. -/
theorem not_fits_wantedLines_cons {line : String} {actual : List String} (hblank : Text.trim line ≠ "")
    (hplace : linesBehind (Text.trim line) actual = none) (lines : List String) :
    ¬ Fits (wantedLines (line :: lines)) actual := by
  rw [wantedLines_cons hblank, fits_cons_iff, hplace]
  rintro ⟨_, hbehind, -⟩
  cases hbehind

/-- **No line is missing** if and only if all wanted lines have places. -/
theorem firstMissing_eq_none_iff {index : Nat} {expected actual : List String} :
    firstMissing index expected actual = none ↔ Fits (wantedLines expected) actual := by
  induction expected generalizing index actual with
  | nil => exact iff_of_true rfl (fits_nil actual)
  | cons line expected ih =>
      rw [firstMissing]
      by_cases hblank : Text.trim line = ""
      · rw [if_pos hblank, wantedLines_cons_blank hblank]
        exact ih
      · rw [if_neg hblank]
        cases hplace : linesBehind (Text.trim line) actual with
        | none => exact iff_of_false (Option.some_ne_none index) (not_fits_wantedLines_cons hblank hplace expected)
        | some behind =>
            rw [fits_wantedLines_cons hblank hplace]
            exact ih

/-- **The first line without a place.** The lines before it have places, and together with it they have none. -/
theorem firstMissing_eq_some {index missing : Nat} {expected actual : List String}
    (h : firstMissing index expected actual = some missing) :
    ∃ before line after, expected = before ++ line :: after ∧ missing = index + before.length ∧
      Fits (wantedLines before) actual ∧ ¬ Fits (wantedLines (before ++ [line])) actual := by
  induction expected generalizing index actual with
  | nil => cases h
  | cons line expected ih =>
      rw [firstMissing] at h
      by_cases hblank : Text.trim line = ""
      · rw [if_pos hblank] at h
        obtain ⟨before, last, after, rfl, rfl, hfits, hmissing⟩ := ih h
        refine ⟨line :: before, last, after, rfl, ?_, ?_, ?_⟩
        · rw [List.length_cons]
          omega
        · rw [wantedLines_cons_blank hblank]
          exact hfits
        · rw [List.cons_append, wantedLines_cons_blank hblank]
          exact hmissing
      · rw [if_neg hblank] at h
        cases hplace : linesBehind (Text.trim line) actual with
        | none =>
            rw [hplace] at h
            cases h
            exact ⟨[], line, expected, rfl, rfl, fits_nil actual, not_fits_wantedLines_cons hblank hplace []⟩
        | some behind =>
            rw [hplace] at h
            obtain ⟨before, last, after, rfl, rfl, hfits, hmissing⟩ := ih h
            have hstep := fits_wantedLines_cons hblank hplace
            refine ⟨line :: before, last, after, rfl, ?_, ?_, ?_⟩
            · rw [List.length_cons]
              omega
            · exact (hstep _).mpr hfits
            · exact fun hall => hmissing ((hstep _).mp hall)

/-! ## The check and its report -/

theorem markMissing_append (before after : List String) (line : String) :
    markMissing (before ++ line :: after) before.length = before ++ (line ++ "   <== missing") :: after := by
  induction before with
  | nil => rfl
  | cons first before ih => exact congrArg (first :: ·) ih

section Verdicts

variable {actual expected : String}

theorem checkContain_of_none
    (h : firstMissing 0 (Text.lines (Text.trim expected)) (Text.lines (Text.trim actual)) = none) :
    checkContain actual expected = .ok () := by
  simp only [checkContain, h]

theorem checkContain_of_some {index : Nat}
    (h : firstMissing 0 (Text.lines (Text.trim expected)) (Text.lines (Text.trim actual)) = some index) :
    checkContain actual expected = .error ⟨Text.lines (Text.trim expected), index⟩ := by
  simp only [checkContain, h]

end Verdicts

/-- **The check is complete.** It succeeds if and only if there is a strictly increasing map from the wanted lines to
    lines in which they occur. Else the report lists all expected lines, with a mark behind one of them: the first
    line such that the lines up to it have no places. -/
theorem checkContain_places (actual expected : String) :
    (checkContain actual expected = .ok () ↔
      Fits (wantedLines (Text.lines (Text.trim expected))) (Text.lines (Text.trim actual))) ∧
    ∀ fault, checkContain actual expected = .error fault →
      ∃ before line after, Text.lines (Text.trim expected) = before ++ line :: after ∧
        (∀ row, row <+: before → Fits (wantedLines row) (Text.lines (Text.trim actual))) ∧
        ¬ Fits (wantedLines (before ++ [line])) (Text.lines (Text.trim actual)) ∧
        ∀ caller, fault.report caller = "\n".intercalate
          (["A line is missing from the output:", "```"] ++ (before ++ (line ++ "   <== missing") :: after)
            ++ ["```", "when called from " ++ caller]) := by
  rw [← @firstMissing_eq_none_iff 0]
  cases hmissing : firstMissing 0 (Text.lines (Text.trim expected)) (Text.lines (Text.trim actual)) with
  | none =>
      rw [checkContain_of_none hmissing]
      exact ⟨iff_of_true rfl rfl, nofun⟩
  | some missing =>
      rw [checkContain_of_some hmissing]
      refine ⟨iff_of_false nofun nofun, ?_⟩
      intro fault hfault
      rw [← Except.error.inj hfault]
      obtain ⟨before, line, after, hlines, rfl, hfits, hrest⟩ := firstMissing_eq_some hmissing
      refine ⟨before, line, after, hlines, fun row hrow => ?_, hrest, fun caller => ?_⟩
      · exact hfits.of_begins (wantedLines_of_begins hrow)
      · rw [MissingLine.report, Nat.zero_add, hlines, markMissing_append]

/-- A line of the output is the place of one line only. -/
theorem checkContain_places_twice :
    checkContain "a b\n c" "b\n\n b " = .error ⟨["b", "", " b"], 2⟩ ∧
      ∃ before line after, ["b", "", " b"] = before ++ line :: after ∧
        ¬ Fits (wantedLines (before ++ [line])) ["a b", " c"] := by
  have hcheck : checkContain "a b\n c" "b\n\n b " = .error ⟨["b", "", " b"], 2⟩ := by decide +kernel
  have hactual : Text.lines (Text.trim "a b\n c") = ["a b", " c"] := by decide +kernel
  have hexpected : Text.lines (Text.trim "b\n\n b ") = ["b", "", " b"] := by decide +kernel
  obtain ⟨-, hreport⟩ := checkContain_places "a b\n c" "b\n\n b "
  rw [hactual, hexpected] at hreport
  obtain ⟨before, line, after, hlines, -, hmissing, -⟩ := hreport _ hcheck
  exact ⟨hcheck, before, line, after, hlines, hmissing⟩

end ModuleLang.Check
