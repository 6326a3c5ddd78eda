import SchemaPages.Proofs.CommandLine.ExitCode

/-!
# Notes are invisible to the result

A call that renders may ask for the notes. That is one option among the others, and nothing but the
end of the report depends on it: no check looks at it (`checkRender_without`), no request is made
from it (`requestOf_without`), and a run takes the same notes either way. So a call with this option
ends like the same call without it, prints the same and leaves the host in the same state, and its
notes stand in front of what the other call prints to standard error (`notes_invisible`).
-/

namespace SchemaPages.CommandLine

open Host (Action Asked Attempt Note State)

/-! ### Lists without some of their elements -/

section

variable {α : Type} [BEq α] [LawfulBEq α] (keep : α → Bool)

theorem filter_ne_of_not_keep {item : α} (h : ¬ keep item) (items : List α) :
    (items.filter fun other => !other == item).filter keep = items.filter keep := by
  rw [List.filter_filter]
  refine List.filter_congr fun other _ => ?_
  by_cases hother : other = item
  · simp [hother, h]
  · simp [hother]

/-- The first occurrences in a part of a list are the part of the first occurrences. -/
theorem eraseDups_filter :
    ∀ items : List α, (items.filter keep).eraseDups = items.eraseDups.filter keep
  | [] => rfl
  | item :: rest => by
    have hshorter : (rest.filter fun other => !other == item).length < rest.length + 1 :=
      Nat.lt_succ_of_le (List.length_filter_le _ _)
    have hrest := eraseDups_filter (rest.filter fun other => !other == item)
    rw [List.eraseDups_cons, List.filter_cons, List.filter_cons]
    split
    · rw [List.eraseDups_cons, ← hrest, List.filter_filter, List.filter_filter]
      simp only [Bool.and_comm]
    · next hkeep => rw [← hrest, filter_ne_of_not_keep keep hkeep]
termination_by items => items.length

end

/-- Steps that do nothing can be left out. -/
theorem forM_filter {ε α : Type} {act : α → Attempt ε PUnit} {keep : α → Bool}
    (h : ∀ item, ¬ keep item → act item = pure ⟨⟩) (items : List α) :
    (items.filter keep).forM act = items.forM act := by
  induction items with
  | nil => rfl
  | cons item rest ih =>
    rw [List.filter_cons]
    split
    · exact congrArg (act item >>= ·) (funext fun _ => ih)
    · next hkeep =>
      change _ = act item >>= fun _ => rest.forM act
      rw [ih, h item hkeep, pure_bind]

/-! ### Options without those of a key -/

section

variable {κ : Type} [BEq κ] [LawfulBEq κ] {key other : κ}

/-- The options that are given, without those of a key. -/
def Given.without (given : Given κ) (key : κ) : Given κ :=
  { given with options := given.options.filter (·.1 != key) }

theorem values_without (given : Given κ) (h : other ≠ key) :
    (given.without key).values other = given.values other := by
  rw [Given.values, Given.values, Given.without, List.filter_filter]
  refine congrArg (List.map Prod.snd) (List.filter_congr fun option _ => ?_)
  by_cases hoption : option.1 = other
  · simp [hoption, h]
  · simp [hoption]

theorem value?_without (given : Given κ) (h : other ≠ key) :
    (given.without key).value? other = given.value? other := by
  rw [Given.value?, Given.value?, values_without given h]

theorem has_without (given : Given κ) (h : other ≠ key) :
    (given.without key).has other = given.has other := by
  rw [Given.has, Given.has, Given.without, List.any_filter]
  refine congrArg given.options.any (funext fun option => ?_)
  by_cases hoption : option.1 = other
  · simp [hoption, h]
  · simp [hoption]

theorem not_has_without (given : Given κ) (key : κ) : (given.without key).has key = false := by
  rw [Given.has, Given.without, List.any_filter, List.any_eq_false]
  simp

/-- Options of a key that is not given are not missed. -/
theorem without_of_not_has {given : Given κ} (h : given.has key = false) :
    given.without key = given := by
  rw [Given.has, List.any_eq_false] at h
  have hall : given.options.filter (·.1 != key) = given.options :=
    List.filter_eq_self.mpr fun option hoption => by simpa using h option hoption
  rw [Given.without, hall]

theorem keys_without (given : Given κ) (key : κ) :
    (given.without key).keys = given.keys.filter (· != key) := by
  rw [Given.keys, Given.keys, Given.without, ← eraseDups_filter, List.filter_map]
  rfl

end

/-- An argument with options is read on its own if none of them waits for a value. -/
theorem divide_cons_of_readOption {κ : Type} {switches : List (Switch κ)} {interspersed : Bool}
    {argument : String} {options : List (κ × String)} (hend : argument ≠ "--")
    (hoption : isOption argument.toList = true)
    (hread : readOption switches argument.toList = .ok (options, none)) {rest : List String} :
    divide switches interspersed (argument :: rest) =
      (divide switches interspersed rest).map (·.after options) := by
  rw [divide, divideFrom]
  simp only [hend, hoption, hread, if_true, if_false]
  rfl

/-! ### The option for notes -/

variable {quiet loud : List String} {given : Given RenderOption}

/-- Whether two command lines give the same, except that only the second one asks for notes. -/
def AsksForNotes (quiet loud : List String) : Prop :=
  ∃ given, divide renderSwitches true loud = .ok given ∧ given.has .verbose = true ∧
    divide renderSwitches true quiet = .ok (given.without .verbose)

/-- The ways to write the option. -/
def notesFlags : List String := ["--verbose", "-v"]

theorem divide_notesFlag {flag : String} (hflag : flag ∈ notesFlags) (arguments : List String) :
    divide renderSwitches true (flag :: arguments) =
      (divide renderSwitches true arguments).map (·.after [(.verbose, "")]) := by
  simp only [notesFlags, List.mem_cons, List.not_mem_nil, or_false] at hflag
  rcases hflag with rfl | rfl <;> exact divide_cons_of_readOption (by decide) (by decide) rfl

/-- The option can be put in front of options without it. -/
theorem asksForNotes_cons (hdivide : divide renderSwitches true quiet = .ok given)
    (hquiet : given.has .verbose = false) {flag : String} (hflag : flag ∈ notesFlags) :
    AsksForNotes quiet (flag :: quiet) := by
  refine ⟨given.after [(.verbose, "")], ?_, rfl, ?_⟩
  · rw [divide_notesFlag hflag, hdivide]
    rfl
  · have hwithout : (given.after [(.verbose, "")]).without .verbose = given.without .verbose := rfl
    rw [hwithout, without_of_not_has hquiet, hdivide]

theorem checkOption_without (given : Given RenderOption) (key : RenderOption) :
    checkOption (given.without .verbose) key = checkOption given key := by
  cases key with
  | outDir => rw [checkOption, checkOption, value?_without given (by decide)]
  | timeout => rw [checkOption, checkOption, value?_without given (by decide)]
  | _ => rfl

/-- No check looks at the option. -/
theorem checkRender_without (given : Given RenderOption) :
    checkRender (given.without .verbose) = checkRender given := by
  have hverbose : ∀ key, ¬ (key != RenderOption.verbose) → checkOption given key = pure ⟨⟩ := by
    intro key hkey
    cases key with
    | verbose => rfl
    | _ => exact absurd rfl hkey
  have hchecks : (given.without .verbose).keys.forM (checkOption (given.without .verbose)) =
      given.keys.forM (checkOption given) := by
    rw [funext (checkOption_without given), keys_without, forM_filter hverbose]
  rw [checkRender, checkRender, hchecks]
  rfl

/-- No request is made from the option. -/
theorem requestOf_without (given : Given RenderOption) :
    requestOf (given.without .verbose) = requestOf given := by
  simp [requestOf, value?_without, values_without]

/-- The report without the notes. -/
def Report.withoutNotes (report : Report) : Report :=
  { report with verbose := false }

theorem run_performRun_without (given : Given RenderOption) (before : State) :
    (performRun (given.without .verbose)).run before =
      (((performRun given).run before).1.withoutNotes, ((performRun given).run before).2) := by
  rw [run_performRun, run_performRun, requestOf_without, not_has_without]
  rfl

/-- The same call without the option has the same report, without the notes. -/
theorem AsksForNotes.run_performRender (h : AsksForNotes quiet loud) (before : State) :
    (performRender quiet).run before =
      (((performRender loud).run before).1.withoutNotes, ((performRender loud).run before).2) := by
  obtain ⟨given, hloud, -, hquiet⟩ := h
  rw [performRender, performRender, hquiet, hloud]
  dsimp only
  rw [has_without given (by decide), checkRender_without]
  split
  · rfl
  · rw [Attempt.run_run_bind, Attempt.run_run_bind]
    rcases ((checkRender given).exec before).1 with error | ⟨⟩
    · rfl
    · exact run_performRun_without given _

/-- The notes stand in front of what is printed without them. -/
theorem errorText_of_verbose {report : Report} (h : report.verbose = true) (notes : List Note) :
    report.errorText notes =
      String.join (notes.map noteLine) ++ report.withoutNotes.errorText notes := by
  rw [Report.errorText, Report.errorText, if_pos h]
  exact congrArg _ String.empty_append.symm

theorem errorText_nil (report : Report) :
    report.errorText [] =
      String.join (List.map noteLine []) ++ report.withoutNotes.errorText [] := by
  rw [Report.errorText, Report.errorText]
  cases report.verbose <;> rfl

/-- A report shows the notes if it is asked to, or there are none to be shown. -/
theorem AsksForNotes.verbose_or_unchanged (h : AsksForNotes quiet loud) (before : State) :
    ((performRender loud).run before).1.verbose = true ∨
      ((performRender loud).run before).2 = before := by
  obtain ⟨given, hdivide, hverbose, -⟩ := h
  rcases CommandLine.run_performRender hdivide before with ⟨-, hrun⟩ | ⟨error, hrun⟩ | ⟨-, hrun⟩ <;>
    rw [hrun]
  · exact .inr rfl
  · exact .inr rfl
  · rw [run_performRun]
    exact .inl hverbose

/-! ### The notes of a call -/

/-- The note that a request is. -/
def note? : Asked → Option Note
  | ⟨_, .note note⟩ => some note
  | _ => none

theorem notes_answer (asked : Asked) (state : State) :
    (state.answer asked.2).2.notes = state.notes ++ (note? asked).toList := by
  obtain ⟨_, request⟩ := asked
  cases request with
  | send message =>
    simp only [State.answer, State.reply]
    cases state.replies <;> simp [note?]
  | write path content =>
    simp only [State.answer]
    cases state.files.write state.working path content <;> simp [note?]
  | _ => simp [State.answer, note?]

/-- An action adds its notes to those that there are. -/
theorem notes_run {α : Type} (action : Action α) (state : State) :
    (action.run state).2.notes = state.notes ++ (action.asked state).filterMap note? :=
  Action.run_appends State.notes note? notes_answer action state

/-- **Notes are invisible to the result.** Take options that can be told apart and do not ask for
notes. A command line that gives the same options and asks for notes, say the same one with the
option in front, ends like the one without on every host: with the same exit code or breakdown, the
same standard output, and the same state of the host, so with the same files, messages and pauses.
If the call without the notes ends with 0, it prints nothing to standard error; and the call with
them prints the lines of the notes that are taken, and behind them what the call without them
prints. -/
theorem notes_invisible (hdivide : divide renderSwitches true quiet = .ok given)
    (hquiet : given.has .verbose = false) :
    (∀ flag ∈ notesFlags, AsksForNotes quiet (flag :: quiet)) ∧
      ∀ loud, AsksForNotes quiet loud → ∀ before, ∃ report loudReport after notes,
        (perform ("render" :: quiet)).run before = (report, after) ∧
          (perform ("render" :: loud)).run before = (loudReport, after) ∧
          loudReport.exit = report.exit ∧ loudReport.stdout = report.stdout ∧
          after.notes = before.notes ++ notes ∧
          (report.exit = .ok 0 → report.errorText notes = "") ∧
          loudReport.errorText notes =
            String.join (notes.map noteLine) ++ report.errorText notes := by
  refine ⟨fun flag => asksForNotes_cons hdivide hquiet, fun loud hloud before => ?_⟩
  have hfits := fits_performRender loud before
  have hnotes := notes_run (performRender loud) before
  have hsame := hloud.run_performRender before
  have hshown := hloud.verbose_or_unchanged before
  rcases hrun : (performRender loud).run before with ⟨report, after⟩
  rw [hrun] at hfits hnotes hsame hshown
  refine ⟨report.withoutNotes.withoutControls, report.withoutControls, after, _, ?_, ?_, rfl, rfl,
    hnotes, ?_, ?_⟩
  · rw [run_perform_render, hsame]
  · rw [run_perform_render, hrun]
  · intro hexit
    exact congrArg Text.withoutControls (hfits.stderr_of_success hexit)
  · rcases hshown with hverbose | hunchanged
    · have hshows : report.withoutControls.verbose = true := hverbose
      exact errorText_of_verbose hshows _
    · -- Nothing has been noted where nothing has been done.
      obtain rfl : after = before := hunchanged
      rw [List.self_eq_append_right.mp hnotes]
      exact errorText_nil report.withoutControls

/-- Where both short options are joined, the run with notes differs from the one without them in the
lines of its notes only. -/
theorem notes_invisible_joined :
    AsksForNotes ["-o", "out"] ["-vo", "out"] ∧ ∃ report loudReport after notes,
      (perform ["render", "-o", "out"]).run Generation.bareHost = (report, after) ∧
        (perform ["render", "-vo", "out"]).run Generation.bareHost = (loudReport, after) ∧
        loudReport.exit = report.exit ∧ loudReport.stdout = report.stdout ∧
        after.notes = Generation.bareHost.notes ++ notes ∧
        (report.exit = .ok 0 → report.errorText notes = "") ∧
        loudReport.errorText notes =
          String.join (notes.map noteLine) ++ report.errorText notes := by
  have hjoined : AsksForNotes ["-o", "out"] ["-vo", "out"] := ⟨_, rfl, rfl, rfl⟩
  have hdivide : divide renderSwitches true ["-o", "out"] = .ok ⟨[(.outDir, "out")], []⟩ := rfl
  exact ⟨hjoined, (notes_invisible hdivide rfl).2 _ hjoined Generation.bareHost⟩

end SchemaPages.CommandLine
