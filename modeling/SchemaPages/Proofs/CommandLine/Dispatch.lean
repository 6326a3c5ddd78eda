import SchemaPages.CommandLine.Basic

/-!
# The command of a call

The options of the program itself take no values and stand in front of the name of a command. So a
command is carried out exactly if its name is the first argument, or follows two dashes that end the
options (`Calls`), and every other call is answered without a look at the host: with a help text,
the version, or what is wrong (`calls_or_answers`).
-/

namespace SchemaPages.CommandLine

variable {arguments rest : List String} {command : Command} {κ : Type}

/-! ### Options without values -/

section

variable {switches : List (Switch κ)} {options : List (κ × String)} {pending : Pending κ}

/-- An argument with short names gives at least one option, if no option takes a value. -/
theorem readShort_ne_nil (hswitches : ∀ switch ∈ switches, switch.takesValue = false)
    {letters : List Char} (hletters : letters ≠ [])
    (h : readShort switches letters = .ok (options, pending)) : options ≠ [] := by
  obtain ⟨c, letters, rfl⟩ := List.exists_cons_of_ne_nil hletters
  rw [readShort] at h
  rcases hfound : switches.find? (·.short = some c) with _ | switch <;> rw [hfound] at h
  · cases h
  · have hvalue := hswitches switch (List.mem_of_find?_eq_some hfound)
    simp only [hvalue, Bool.not_false, if_true] at h
    rcases hread : readShort switches letters with error | ⟨others, waiting⟩ <;> rw [hread] at h <;>
      cases h
    exact List.cons_ne_nil _ _

theorem readOption_ne_nil (hswitches : ∀ switch ∈ switches, switch.takesValue = false)
    {argument : List Char} (hargument : isOption argument = true)
    (h : readOption switches argument = .ok (options, pending)) : options ≠ [] := by
  rw [readOption] at h
  rcases hfound : switches.find? (·.long = (splitValue argument).1) with _ | switch <;>
    simp only [hfound] at h
  · -- The name is no long one, so it has letters behind its dash.
    have htail : argument.tail ≠ [] := by
      rcases argument with _ | ⟨first, _ | ⟨second, others⟩⟩
      · simp [isOption] at hargument
      · simp [isOption] at hargument
      · exact List.cons_ne_nil _ _
    split at h
    · cases h
    · exact readShort_ne_nil hswitches htail h
  · have hvalue := hswitches switch (List.mem_of_find?_eq_some hfound)
    rw [hvalue] at h
    rcases hgiven : (splitValue argument).2 with _ | value <;> simp only [hgiven] at h <;> cases h
    exact List.cons_ne_nil _ _

/-- If no option takes a value and none is given, the arguments are positional from the start, or
behind two dashes. -/
theorem eq_positional_of_divide (hswitches : ∀ switch ∈ switches, switch.takesValue = false)
    {given : Given κ} (hdivide : divide switches false arguments = .ok given)
    (hnone : given.options = []) :
    arguments = given.positional ∨ arguments = "--" :: given.positional := by
  rcases arguments with _ | ⟨argument, others⟩
  · cases hdivide
    exact .inl rfl
  · rw [divide, divideFrom] at hdivide
    by_cases hdashes : argument = "--"
    · rw [if_pos hdashes] at hdivide
      cases hdivide
      exact .inr (congrArg (· :: others) hdashes)
    · rw [if_neg hdashes] at hdivide
      by_cases hoption : isOption argument.toList = true
      · -- An option would be among those that are given.
        rw [if_pos hoption] at hdivide
        rcases hread : readOption switches argument.toList with error | ⟨options, pending⟩ <;>
          simp only [hread] at hdivide
        · cases hdivide
        · rcases hrest : divideFrom switches false pending others with error | remaining <;>
            rw [hrest] at hdivide <;> cases hdivide
          exact absurd (List.append_eq_nil_iff.mp hnone).1
            (readOption_ne_nil hswitches hoption hread)
      · rw [if_neg hoption, if_neg Bool.false_ne_true] at hdivide
        cases hdivide
        exact .inl rfl

end

/-! ### Calls of a command -/

/-- Whether a call is one of a command, with arguments. -/
inductive Calls : List String → Command → List String → Prop
  | plain (command : Command) (rest : List String) : Calls (command.name :: rest) command rest
  | behindDashes (command : Command) (rest : List String) :
      Calls ("--" :: command.name :: rest) command rest

/-- A call of a command carries out the command. -/
theorem Calls.dispatch_eq (h : Calls arguments command rest) :
    dispatch arguments = performCommand command rest := by
  cases h <;> cases command <;> rfl

theorem name_of_ofName? {name : String} (h : Command.ofName? name = some command) :
    command.name = name := by
  rw [Command.ofName?] at h
  simpa using List.find?_some h

/-- The reports that need no look at the host. -/
inductive Report.Answers : Report → Prop
  | misuse (stderr : String) : Report.Answers (.misuse stderr)
  | success (stdout : String) : Report.Answers (.success stdout)

theorem answers_optionReport {given : Given ProgramOption} {report : Report}
    (h : optionReport? given = some report) : report.Answers := by
  rw [optionReport?, Option.map_eq_some_iff] at h
  obtain ⟨key, -, rfl⟩ := h
  cases key <;> exact .success _

/-- The first option is looked at, so there is no report on one only if none is given. -/
theorem options_eq_nil_of_optionReport? {given : Given ProgramOption}
    (h : optionReport? given = none) : given.options = [] := by
  rw [optionReport?, Option.map_eq_none_iff, List.head?_eq_none_iff] at h
  rcases hoptions : given.options with _ | ⟨option, others⟩
  · rfl
  · rw [Given.keys, hoptions, List.map_cons, List.eraseDups_cons] at h
    cases h

theorem answers_unknownCommand (name : String) (rest : List String) :
    (unknownCommand name rest).Answers := by
  rw [unknownCommand]
  split
  · split
    · exact .misuse _
    · next given _ =>
      rcases hoption : optionReport? given with _ | report
      · exact .misuse _
      · exact answers_optionReport hoption
  · exact .misuse _

/-- A call is one of a command, or it is answered at once. -/
theorem calls_or_answers (arguments : List String) :
    (∃ command rest, Calls arguments command rest) ∨
      ∃ report : Report, report.Answers ∧ dispatch arguments = pure report := by
  rw [dispatch]
  split
  · exact .inr ⟨_, .misuse _, rfl⟩
  · split
    · exact .inr ⟨_, .misuse _, rfl⟩
    · next given hdivide =>
      split
      · next report hoption => exact .inr ⟨report, answers_optionReport hoption, rfl⟩
      · next hoption =>
        split
        · exact .inr ⟨_, .misuse _, rfl⟩
        · next name rest hpositional =>
          split
          · next command hname =>
            -- No option of the program is given, so the name of the command comes first.
            have hnone := options_eq_nil_of_optionReport? hoption
            have hfirst := eq_positional_of_divide (by decide) hdivide hnone
            rw [hpositional, ← name_of_ofName? hname] at hfirst
            rcases hfirst with rfl | rfl
            · exact .inl ⟨command, rest, .plain command rest⟩
            · exact .inl ⟨command, rest, .behindDashes command rest⟩
          · exact .inr ⟨_, answers_unknownCommand name rest, rfl⟩

end SchemaPages.CommandLine
