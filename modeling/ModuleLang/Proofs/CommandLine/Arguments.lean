import ModuleLang.CommandLine.Arguments

/-!
# `Proofs.CommandLine.Arguments` — the command lines that ask for an input to be processed

The arguments are read from left to right, with what was accepted so far. What they ask for can be told without an order:
each of the two settings stands at most once in front of the mark `--`, and all other arguments are names of inputs, of
which there is at most one.

## Contents
- **The specification** (`NamesInput`, `inputs`, `Asks`).
- **Names behind the mark** (`foldlM_name_eq_ok_iff`), and what one argument is (`classify_cases`).
- **`AsksBehind`**: what the arguments ask for behind those that were accepted. One argument is taken off at a time
  (`asksBehind_nil`, `asksBehind_mark`, `asksBehind_name`, `asksBehind_setting`).
- **Reading** takes off the same arguments (`readFrom_mark`, `readFrom_name`, `readFrom_setting`), and stops at any other
  (`readFrom_other`).
- **`readArguments_eq_process_iff`**: these are the command lines that are accepted.
-/

namespace ModuleLang.CommandLine

/-! ## The specification -/

/-- A name of an input does not begin with `-`, or it is `-`. -/
def NamesInput (argument : String) : Prop :=
  argument = "-" ∨ argument.toList.head? ≠ some '-'

instance : DecidablePred NamesInput := fun argument =>
  inferInstanceAs (Decidable (argument = "-" ∨ argument.toList.head? ≠ some '-'))

/-- The arguments in front of the mark `--`. -/
def beforeMark (arguments : List String) : List String :=
  arguments.takeWhile (· ≠ "--")

/-- The names of inputs: some in front of the mark, and all arguments behind it. -/
def inputs (arguments : List String) : List String :=
  (beforeMark arguments).filter (NamesInput ·) ++ (arguments.dropWhile (· ≠ "--")).tail

/-- **What a command line asks for**, if it asks for an input to be processed. -/
structure Asks (arguments : List String) (options : Options) : Prop where
  /-- In front of the mark there are the two settings and names of inputs. -/
  known : ∀ argument ∈ beforeMark arguments,
    argument = "--print-tokens" ∨ argument = "--debug" ∨ NamesInput argument
  /-- The tokens are asked for once, or they are not printed. -/
  printTokens : (beforeMark arguments).count "--print-tokens" = options.printTokens.toNat
  /-- The debug line is asked for once, or it is not printed. -/
  debug : (beforeMark arguments).count "--debug" = options.debug.toNat
  /-- There is one name, or the input is the standard input. -/
  input : inputs arguments = [options.input] ∨ inputs arguments = [] ∧ options.input = "-"

theorem beforeMark_cons {argument : String} (h : argument ≠ "--") (rest : List String) :
    beforeMark (argument :: rest) = argument :: beforeMark rest :=
  List.takeWhile_cons_of_pos (by simpa using h)

theorem inputs_mark (names : List String) : inputs ("--" :: names) = names := by
  rfl

theorem NamesInput.ne_mark {argument : String} (h : NamesInput argument) : argument ≠ "--" := by
  rintro rfl
  exact absurd h (by decide)

theorem inputs_name {argument : String} (h : NamesInput argument) (rest : List String) :
    inputs (argument :: rest) = argument :: inputs rest := by
  have hmark := h.ne_mark
  unfold inputs
  rw [beforeMark_cons hmark, List.filter_cons_of_pos (by simpa using h),
    List.dropWhile_cons_of_pos (by simpa using hmark)]
  rfl

theorem inputs_option {argument : String} (h : ¬ NamesInput argument) (hmark : argument ≠ "--") (rest : List String) :
    inputs (argument :: rest) = inputs rest := by
  unfold inputs
  rw [beforeMark_cons hmark, List.filter_cons_of_neg (by simpa using h),
    List.dropWhile_cons_of_pos (by simpa using hmark)]

/-! ## Names behind the mark -/

theorem name_eq_ok_iff {accepted final : Accepted} {argument : String} :
    accepted.name argument = .ok final ↔
      accepted.input? = none ∧ final = { accepted with input? := some argument } := by
  unfold Accepted.name
  cases accepted.input? with
  | none => simp [eq_comm]
  | some name => simp

/-- **Names are accepted** if there is at most one, with the name that was accepted before. -/
theorem foldlM_name_eq_ok_iff {names : List String} {accepted final : Accepted} :
    names.foldlM Accepted.name accepted = .ok final ↔
      final.switches = accepted.switches ∧ final.input?.toList = accepted.input?.toList ++ names := by
  induction names generalizing accepted with
  | nil =>
      obtain ⟨switches, input?⟩ := accepted
      obtain ⟨switches', input'?⟩ := final
      cases input? <;> cases input'? <;> simp [pure, Except.pure, eq_comm]
  | cons name names ih =>
      rw [List.foldlM_cons]
      cases hinput : accepted.input? with
      | none =>
          rw [name_eq_ok_iff.mpr ⟨hinput, rfl⟩]
          show names.foldlM Accepted.name { accepted with input? := some name } = .ok final ↔ _
          rw [ih]
          rfl
      | some first =>
          have hname : accepted.name name = .error ⟨.surplus name, .general⟩ := by simp only [Accepted.name, hinput]
          rw [hname]
          -- there is no place for two names
          refine iff_of_false nofun fun ⟨_, htwo⟩ => ?_
          cases hfinal : final.input? with
          | none => simp [hfinal] at htwo
          | some last => simp [hfinal] at htwo

/-! ## One argument -/

theorem Switch.cases_of_isSetting {switch : Switch} (h : switch.isSetting = true) :
    switch = .printTokens ∨ switch = .debug := by
  revert h
  cases switch <;> decide

theorem Switch.spelling_injective {switch other : Switch} (h : switch.spelling = other.spelling) : switch = other := by
  revert h
  cases switch <;> cases other <;> decide

theorem Switch.not_namesInput_spelling (switch : Switch) : ¬ NamesInput switch.spelling := by
  cases switch <;> decide

theorem Switch.spelling_ne_mark (switch : Switch) : switch.spelling ≠ "--" := by
  cases switch <;> decide

theorem classify_spelling {switch : Switch} : classify switch.spelling = .long switch.word none := by
  cases switch <;> rfl

theorem ofWord?_word {switch : Switch} : Switch.ofWord? switch.word = some switch := by
  cases switch <;> rfl

theorem Switch.word_of_ofWord? {word : String} {switch : Switch} (h : ofWord? word = some switch) :
    switch.word = word := by
  simpa using List.find?_some h

theorem not_namesInput_of_dash {argument : String} {c : Char} {rest : List Char}
    (h : argument.toList = '-' :: c :: rest) : ¬ NamesInput argument := by
  rintro (rfl | hhead)
  · cases h
  · rw [h] at hhead
    exact hhead rfl

/-- Without a value there is no equals sign, and the word is all there is. -/
theorem splitAtEquals_fst {argument : List Char} (h : (splitAtEquals argument).2 = none) :
    (splitAtEquals argument).1 = String.ofList argument := by
  have hdrop : argument.drop (argument.takeWhile (· ≠ '=')).length = [] := by
    cases hbehind : argument.drop (argument.takeWhile (· ≠ '=')).length with
    | nil => rfl
    | cons c behind =>
        simp only [splitAtEquals, hbehind] at h
        cases h
  have hall := (List.takeWhile_prefix (· ≠ '=') (l := argument)).eq_of_length_le (List.drop_eq_nil_iff.mp hdrop)
  exact congrArg String.ofList hall

/-- An argument is the mark, a name, a setting, or none of these. -/
theorem argument_cases (argument : String) :
    argument = "--" ∨ NamesInput argument ∨
      (∃ switch : Switch, switch.isSetting = true ∧ argument = switch.spelling) ∨
      argument ≠ "--" ∧ ¬ NamesInput argument ∧
        ∀ switch : Switch, switch.isSetting = true → argument ≠ switch.spelling := by
  by_cases hmark : argument = "--"
  · exact .inl hmark
  · by_cases hname : NamesInput argument
    · exact .inr (.inl hname)
    · by_cases hsetting : ∃ switch : Switch, switch.isSetting = true ∧ argument = switch.spelling
      · exact .inr (.inr (.inl hsetting))
      · exact .inr (.inr (.inr ⟨hmark, hname, fun switch h hspelling => hsetting ⟨switch, h, hspelling⟩⟩))

/-- **How one argument is classified.** A word behind `--` without a value is all that stands there. -/
theorem classify_cases (argument : String) :
    argument = "--" ∨ NamesInput argument ∧ classify argument = .name ∨
      ¬ NamesInput argument ∧ ((∃ letter, classify argument = .short letter) ∨
        ∃ word value?, classify argument = .long word value? ∧ (value? = none → argument = "--" ++ word)) := by
  unfold classify
  split
  case h_1 hchars => exact .inl (String.toList_inj.mp hchars)
  case h_2 rest _ hchars =>
      refine .inr (.inr ⟨not_namesInput_of_dash hchars, .inr ⟨_, _, rfl, fun hvalue => ?_⟩⟩)
      have hword : (splitAtEquals rest).1 = String.ofList rest := splitAtEquals_fst hvalue
      show argument = "--" ++ (splitAtEquals rest).1
      rw [hword, ← String.toList_inj, hchars]
      simp
  case h_3 letter _ _ _ hchars => exact .inr (.inr ⟨not_namesInput_of_dash hchars, .inl ⟨letter, rfl⟩⟩)
  case h_4 _ _ hshort =>
      refine .inr (.inl ⟨?_, rfl⟩)
      cases hchars : argument.toList with
      | nil => exact .inr (by rw [hchars]; nofun)
      | cons c rest =>
          by_cases hdash : c = '-'
          · subst hdash
            cases rest with
            | nil => exact .inl (String.toList_inj.mp hchars)
            | cons letter rest => exact absurd hchars (hshort letter rest)
          · refine .inr ?_
            rw [hchars, List.head?_cons, Ne, Option.some.injEq]
            exact hdash

/-! ## What is asked for behind the arguments that were accepted -/

/-- Whether the options have a setting. -/
def Options.has (options : Options) : Switch → Bool
  | .printTokens => options.printTokens
  | .debug => options.debug
  | .help | .version => false

/-- **What is asked for** by the arguments that were accepted together with those that follow. -/
structure AsksBehind (accepted : Accepted) (arguments : List String) (options : Options) : Prop where
  /-- Those that follow are settings and names. -/
  known : ∀ argument ∈ beforeMark arguments,
    (∃ switch : Switch, switch.isSetting = true ∧ argument = switch.spelling) ∨ NamesInput argument
  /-- No setting is given again. -/
  settings : ∀ switch : Switch, switch.isSetting = true →
    (decide (switch ∈ accepted.switches)).toNat + (beforeMark arguments).count switch.spelling =
      (options.has switch).toNat
  /-- There is at most one name. -/
  input : accepted.input?.toList ++ inputs arguments = [options.input] ∨
    accepted.input?.toList ++ inputs arguments = [] ∧ options.input = "-"

theorem eq_of_toNat_eq {a b : Bool} (h : a.toNat = b.toNat) : a = b := by
  revert h
  cases a <;> cases b <;> decide

section Behind

variable {accepted : Accepted} {options : Options} {argument : String} {rest : List String}

/-- A name is not counted as a setting. -/
theorem count_name (hname : NamesInput argument) (switch : Switch) :
    (beforeMark (argument :: rest)).count switch.spelling = (beforeMark rest).count switch.spelling := by
  rw [beforeMark_cons hname.ne_mark, List.count_cons_of_ne]
  rintro rfl
  exact switch.not_namesInput_spelling hname

/-- A setting is counted as itself only. -/
theorem count_setting (switch other : Switch) : (beforeMark (switch.spelling :: rest)).count other.spelling =
    (beforeMark rest).count other.spelling + (decide (other = switch)).toNat := by
  rw [beforeMark_cons switch.spelling_ne_mark, List.count_cons]
  by_cases hother : other = switch
  · simp [hother]
  · have hspelling : switch.spelling ≠ other.spelling := fun h => hother (Switch.spelling_injective h).symm
    simp [hother, hspelling]

theorem toNat_mem_withSwitch {switch : Switch} (hnew : switch ∉ accepted.switches) (other : Switch) :
    (decide (other ∈ (accepted.withSwitch switch).switches)).toNat =
      (decide (other ∈ accepted.switches)).toNat + (decide (other = switch)).toNat := by
  simp only [Accepted.withSwitch, if_neg hnew, List.mem_append, List.mem_singleton]
  by_cases hother : other = switch
  · simp [hother, hnew]
  · simp [hother]

/-- Behind the last argument, what was accepted is asked for. -/
theorem asksBehind_nil : AsksBehind accepted [] options ↔ options = accepted.options := by
  constructor
  · rintro ⟨-, hsettings, hinput⟩
    have hprint : options.printTokens = decide (.printTokens ∈ accepted.switches) :=
      (eq_of_toNat_eq (hsettings .printTokens rfl)).symm
    have hdebug : options.debug = decide (.debug ∈ accepted.switches) :=
      (eq_of_toNat_eq (hsettings .debug rfl)).symm
    have hname : options.input = accepted.input?.getD "-" := by
      cases hfound : accepted.input? with
      | none =>
          rw [hfound] at hinput
          rcases hinput with hone | ⟨-, hstandard⟩
          · cases hone
          · exact hstandard
      | some name =>
          rw [hfound] at hinput
          rcases hinput with hone | ⟨hnone, -⟩
          · cases hone
            rfl
          · cases hnone
    obtain ⟨input, printTokens, debug⟩ := options
    exact congr (congr (congrArg Options.mk hname) hprint) hdebug
  · rintro rfl
    refine ⟨nofun, fun switch hsetting => ?_, ?_⟩
    · rcases Switch.cases_of_isSetting hsetting with rfl | rfl
      · rfl
      · rfl
    · cases hfound : accepted.input? with
      | none => exact .inr ⟨rfl, by simp [Accepted.options, hfound]⟩
      | some name => exact .inl (by simp [Accepted.options, hfound, inputs, beforeMark])

/-- Behind the mark, names are asked for. -/
theorem asksBehind_mark {names : List String} : AsksBehind accepted ("--" :: names) options ↔
    ∃ final, names.foldlM Accepted.name accepted = .ok final ∧ options = final.options := by
  constructor
  · rintro ⟨-, hsettings, hinput⟩
    rw [inputs_mark] at hinput
    refine ⟨{ accepted with input? := (accepted.input?.toList ++ names).head? }, ?_, ?_⟩
    · rw [foldlM_name_eq_ok_iff]
      rcases hinput with hone | ⟨hnone, -⟩
      · exact ⟨rfl, by rw [hone]; rfl⟩
      · exact ⟨rfl, by rw [hnone]; rfl⟩
    · rw [← asksBehind_nil]
      refine ⟨nofun, hsettings, ?_⟩
      rcases hinput with hone | ⟨hnone, hstandard⟩
      · exact .inl (by rw [hone]; rfl)
      · exact .inr ⟨by rw [hnone]; rfl, hstandard⟩
  · rintro ⟨final, hnames, hoptions⟩
    obtain ⟨hswitches, hinput⟩ := foldlM_name_eq_ok_iff.mp hnames
    obtain ⟨-, hsettings, hfinal⟩ := asksBehind_nil.mpr hoptions
    refine ⟨nofun, ?_, ?_⟩
    · rwa [← hswitches]
    · rw [inputs_mark, ← hinput]
      simpa [inputs, beforeMark] using hfinal

/-- A name is asked for if it is the only one. -/
theorem asksBehind_name (hname : NamesInput argument) : AsksBehind accepted (argument :: rest) options ↔
    accepted.input? = none ∧ AsksBehind { accepted with input? := some argument } rest options := by
  have hmark := hname.ne_mark
  constructor
  · rintro ⟨hknown, hsettings, hinput⟩
    rw [beforeMark_cons hmark] at hknown
    rw [inputs_name hname] at hinput
    have hnone : accepted.input? = none := by
      cases hfound : accepted.input? with
      | none => rfl
      | some first => simp [hfound] at hinput
    rw [hnone] at hinput
    refine ⟨hnone, (List.forall_mem_cons.mp hknown).2, fun switch hsetting => ?_, hinput⟩
    rw [← hsettings switch hsetting, count_name hname]
  · rintro ⟨hnone, hknown, hsettings, hinput⟩
    refine ⟨?_, fun switch hsetting => ?_, ?_⟩
    · rw [beforeMark_cons hmark]
      exact List.forall_mem_cons.mpr ⟨.inr hname, hknown⟩
    · rw [← hsettings switch hsetting, count_name hname]
    · rw [inputs_name hname, hnone]
      exact hinput

/-- A setting is asked for if it was not given before. -/
theorem asksBehind_setting {switch : Switch} (hsetting : switch.isSetting = true) :
    AsksBehind accepted (switch.spelling :: rest) options ↔
      switch ∉ accepted.switches ∧ AsksBehind (accepted.withSwitch switch) rest options := by
  have hmark := switch.spelling_ne_mark
  have hinputs := inputs_option switch.not_namesInput_spelling hmark rest
  constructor
  · rintro ⟨hknown, hsettings, hinput⟩
    rw [beforeMark_cons hmark] at hknown
    have hnew : switch ∉ accepted.switches := by
      intro hmem
      have hself := hsettings switch hsetting
      have hle := Bool.toNat_le (options.has switch)
      simp only [count_setting, hmem, decide_true, Bool.toNat_true] at hself
      omega
    refine ⟨hnew, (List.forall_mem_cons.mp hknown).2, fun other hother => ?_, ?_⟩
    · have hsame := hsettings other hother
      rw [count_setting] at hsame
      rw [toNat_mem_withSwitch hnew, ← hsame]
      omega
    · rwa [← hinputs]
  · rintro ⟨hnew, hknown, hsettings, hinput⟩
    refine ⟨?_, fun other hother => ?_, ?_⟩
    · rw [beforeMark_cons hmark]
      exact List.forall_mem_cons.mpr ⟨.inl ⟨switch, hsetting, rfl⟩, hknown⟩
    · have hsame := hsettings other hother
      rw [toNat_mem_withSwitch hnew] at hsame
      rw [count_setting, ← hsame]
      omega
    · rwa [hinputs]

end Behind

/-! ## Reading -/

section Reading

variable {accepted : Accepted} {options : Options}

/-- Behind the mark all arguments are names. -/
theorem readFrom_mark (names : List String) :
    readFrom accepted ("--" :: names) =
      (names.foldlM Accepted.name accepted).map fun final => .process final.options := by
  have hclass : classify "--" = .endOfOptions := rfl
  rw [readFrom, hclass]
  cases names.foldlM Accepted.name accepted <;> rfl

/-- A name is accepted if there was none before. -/
theorem readFrom_name {argument : String} (hname : NamesInput argument) (rest : List String) :
    readFrom accepted (argument :: rest) =
      match accepted.name argument with
      | .ok accepted => readFrom accepted rest
      | .error error => .error error := by
  have hclass : classify argument = .name := by
    rcases classify_cases argument with hmark | ⟨-, hclass⟩ | ⟨hno, -⟩
    · exact absurd hmark hname.ne_mark
    · exact hclass
    · exact absurd hname hno
  cases hnext : accepted.name argument with
  | ok next => simp only [readFrom, hclass, hnext]
  | error error => simp only [readFrom, hclass, hnext]

/-- A setting that was not given before is accepted. -/
theorem readFrom_setting {switch : Switch} (hsetting : switch.isSetting = true) (rest : List String) :
    readFrom accepted (switch.spelling :: rest) =
      if switch ∈ accepted.switches then .error ⟨.repeated switch, .general⟩
      else readFrom (accepted.withSwitch switch) rest := by
  rw [readFrom, classify_spelling]
  simp only [ofWord?_word]
  rcases Switch.cases_of_isSetting hsetting with rfl | rfl
  · rfl
  · rfl

/-- An argument that is neither the mark nor a name nor a setting does not lead to an input. -/
theorem readFrom_other {argument : String} (hmark : argument ≠ "--") (hname : ¬ NamesInput argument)
    (hsettings : ∀ switch : Switch, switch.isSetting = true → argument ≠ switch.spelling) (rest : List String) :
    readFrom accepted (argument :: rest) ≠ .ok (.process options) := by
  rw [readFrom]
  rcases classify_cases argument with
    rfl | ⟨hinput, -⟩ | ⟨-, ⟨letter, hclass⟩ | ⟨word, value?, hclass, hspelling⟩⟩
  · exact absurd rfl hmark
  · exact absurd hinput hname
  · simp only [hclass]
    split <;> nofun
  · rw [hclass]
    cases hword : Switch.ofWord? word with
    | none => simp [hword]
    | some switch =>
        cases value? with
        | some value => simp [hword]
        | none =>
            have hargument : argument = switch.spelling := by
              rw [hspelling rfl, Switch.spelling, Switch.word_of_ofWord? hword]
            cases switch with
            | printTokens => exact absurd hargument (hsettings .printTokens rfl)
            | debug => exact absurd hargument (hsettings .debug rfl)
            | help => simp [hword]
            | version => simp [hword]

/-- **Reading is asking**, behind whatever was accepted. -/
theorem readFrom_eq_process_iff {arguments : List String} :
    readFrom accepted arguments = .ok (.process options) ↔ AsksBehind accepted arguments options := by
  induction arguments generalizing accepted with
  | nil =>
      rw [asksBehind_nil, readFrom, Except.ok.injEq, Request.process.injEq]
      exact eq_comm
  | cons argument rest ih =>
      rcases argument_cases argument with rfl | hname | ⟨switch, hsetting, rfl⟩ | ⟨hmark, hname, hother⟩
      · rw [asksBehind_mark, readFrom_mark]
        cases rest.foldlM Accepted.name accepted with
        | ok final => simp [Except.map, eq_comm]
        | error error => simp [Except.map]
      · rw [asksBehind_name hname, readFrom_name hname]
        cases hinput : accepted.input? with
        | none => rw [name_eq_ok_iff.mpr ⟨hinput, rfl⟩, ih, and_iff_right rfl]
        | some first => simp [Accepted.name, hinput]
      · rw [asksBehind_setting hsetting, readFrom_setting hsetting]
        by_cases hmem : switch ∈ accepted.switches
        · rw [if_pos hmem]
          exact ⟨nofun, fun h => absurd hmem h.1⟩
        · rw [if_neg hmem, ih, and_iff_right hmem]
      · have hfirst : argument ∈ beforeMark (argument :: rest) := by
          rw [beforeMark_cons hmark]
          exact List.mem_cons_self
        refine iff_of_false (readFrom_other hmark hname hother rest) fun hasks => ?_
        rcases hasks.known argument hfirst with ⟨switch, hsetting, hspelling⟩ | hinput
        · exact hother switch hsetting hspelling
        · exact hname hinput

end Reading

/-- **The command lines that ask for an input to be processed**, and what is to be done with it. -/
theorem readArguments_eq_process_iff {arguments : List String} {options : Options} :
    readArguments arguments = .ok (.process options) ↔ Asks arguments options := by
  rw [readArguments, readFrom_eq_process_iff]
  constructor
  · rintro ⟨hknown, hsettings, hinput⟩
    refine ⟨fun argument hmem => ?_, ?_, ?_, hinput⟩
    · rcases hknown argument hmem with ⟨switch, hsetting, rfl⟩ | hname
      · rcases Switch.cases_of_isSetting hsetting with rfl | rfl
        · exact .inl rfl
        · exact .inr (.inl rfl)
      · exact .inr (.inr hname)
    · rw [← Nat.zero_add (List.count _ _)]
      exact hsettings .printTokens rfl
    · rw [← Nat.zero_add (List.count _ _)]
      exact hsettings .debug rfl
  · rintro ⟨hknown, hprint, hdebug, hinput⟩
    refine ⟨fun argument hmem => ?_, fun switch hsetting => ?_, hinput⟩
    · rcases hknown argument hmem with rfl | rfl | hname
      · exact .inl ⟨.printTokens, rfl, rfl⟩
      · exact .inl ⟨.debug, rfl, rfl⟩
      · exact .inr hname
    · rcases Switch.cases_of_isSetting hsetting with rfl | rfl
      · exact (Nat.zero_add _).trans hprint
      · exact (Nat.zero_add _).trans hdebug

/-- A name that begins with a dash, behind the mark. -/
example : readArguments ["--debug", "--print-tokens", "--", "-x"] = .ok (.process ⟨"-x", true, true⟩) := by
  rfl

end ModuleLang.CommandLine
