import SchemaPages.Proofs.CommandLine.Dispatch
import SchemaPages.Proofs.CommandLine.Render
import SchemaPages.Proofs.Settings.Template
import SchemaPages.Proofs.Text.ControlSequence

/-!
# What an exit code tells

A call with wrong arguments does nothing, and a call prints to standard output only if all went well
and to standard error only if not, notes apart (`Report.Fits`). The code of a call that renders says
how the run has ended, and the code of one that writes the template says whether there is a new file
(`RenderTells`, `TemplateTells`). What is printed is the text of the outcome or of the error without
its control sequences, and a request for help ends well without a run or a file (`exit_code_tells`).
-/

namespace SchemaPages.CommandLine

open Files (Path)
open Host (Action Attempt State)

variable {arguments : List String} {report : Report} {before after : State}

/-! ### Reports that fit what is done -/

/-- Whether a report fits what has been done: it complains only if the call has failed, it has a
result only if not, and it says that the arguments are wrong only if nothing has been done. -/
structure Report.Fits (report : Report) (before after : State) : Prop where
  stderr_of_success : report.exit = .ok 0 → report.stderr = ""
  stdout_of_failure : report.exit ≠ .ok 0 → report.stdout = ""
  unchanged : report.exit = .ok 2 → after = before

theorem fits_success (stdout : String) (before after : State) :
    (Report.success stdout).Fits before after :=
  ⟨fun _ => rfl, fun h => absurd rfl h, by rintro ⟨⟩⟩

theorem fits_failure (message : String) (before after : State) :
    (Report.failure message).Fits before after :=
  ⟨by rintro ⟨⟩, fun _ => rfl, by rintro ⟨⟩⟩

theorem fits_breakdown (cause : Host.Breakdown) (before after : State) :
    (Report.breakdown cause).Fits before after :=
  ⟨by rintro ⟨⟩, fun _ => rfl, by rintro ⟨⟩⟩

theorem fits_misuse (stderr : String) (before : State) :
    (Report.misuse stderr).Fits before before :=
  ⟨by rintro ⟨⟩, fun _ => rfl, fun _ => rfl⟩

theorem Report.Answers.fits (h : report.Answers) (before : State) : report.Fits before before := by
  cases h with
  | misuse stderr => exact fits_misuse stderr before
  | success stdout => exact fits_success stdout before before

/-- Without control sequences a text that is empty stays empty. -/
theorem Report.Fits.withoutControls (h : report.Fits before after) :
    report.withoutControls.Fits before after where
  stderr_of_success hexit := congrArg Text.withoutControls (h.stderr_of_success hexit)
  stdout_of_failure hexit := congrArg Text.withoutControls (h.stdout_of_failure hexit)
  unchanged := h.unchanged

/-! ### Each command -/

theorem fits_performRun (given : Given RenderOption) (before : State) :
    ((performRun given).run before).1.Fits before ((performRun given).run before).2 := by
  rw [run_performRun]
  rcases (Generation.run (requestOf given)).exec before with ⟨(error | cause) | outcome, after⟩
  · exact ⟨by rintro ⟨⟩, fun _ => rfl, by rintro ⟨⟩⟩
  · exact ⟨by rintro ⟨⟩, fun _ => rfl, by rintro ⟨⟩⟩
  · exact ⟨fun _ => rfl, fun h => absurd rfl h, by rintro ⟨⟩⟩

theorem fits_performRender (arguments : List String) (before : State) :
    ((performRender arguments).run before).1.Fits before
      ((performRender arguments).run before).2 := by
  rcases hdivide : divide renderSwitches true arguments with error | given
  · rw [performRender, hdivide]
    exact fits_misuse _ before
  · rcases run_performRender hdivide before with ⟨-, hhelp⟩ | ⟨error, herror⟩ | ⟨-, hrun⟩
    · rw [hhelp]
      exact fits_success _ before before
    · rw [herror]
      exact fits_misuse _ before
    · rw [hrun]
      exact fits_performRun given before

/-- The template is written to a new file, which the call reports, or the call fails and nothing is
done. -/
theorem run_performTemplate (text : String) (before : State) :
    (∃ stdout after, (performTemplate text).run before = (.success stdout, after) ∧
        Settings.AddsTemplate (Path.ofString text) before after) ∨
      ∃ report : Report, (performTemplate text).run before = (report, before) ∧
        report.Fits before before ∧ report.exit ≠ .ok 0 := by
  rw [performTemplate, Attempt.run_run_bind]
  rcases Settings.exec_writeTemplate text before with ⟨after, hexec, hadds⟩ | ⟨failed, hexec⟩ <;>
    rw [hexec]
  · exact .inl ⟨_, after, rfl, hadds⟩
  · refine .inr ?_
    rcases failed with error | (_ | _ | _ | _ | _)
    · exact ⟨_, rfl, fits_failure _ before before, by rintro ⟨⟩⟩
    · exact ⟨_, rfl, fits_failure _ before before, by rintro ⟨⟩⟩
    all_goals exact ⟨_, rfl, fits_breakdown _ before before, by rintro ⟨⟩⟩

/-- Options ask for help, are wrong, or lead to a template. -/
theorem performGenerateConfig_cases (arguments : List String) :
    (∃ given, divide templateSwitches true arguments = .ok given ∧ given.has .help = true ∧
        performGenerateConfig arguments = pure (.success (helpText (some .generateConfig)))) ∨
      (∃ error, performGenerateConfig arguments = pure (.usage (some .generateConfig) error)) ∨
      ∃ given, divide templateSwitches true arguments = .ok given ∧ given.has .help = false ∧
        performGenerateConfig arguments =
          performTemplate ((given.value? .output).getD Settings.defaultFileName) := by
  rw [performGenerateConfig]
  rcases divide templateSwitches true arguments with error | given
  · exact .inr (.inl ⟨_, rfl⟩)
  · dsimp only
    split
    · next hhelp => exact .inl ⟨given, rfl, hhelp, rfl⟩
    · next hhelp =>
      split
      · exact .inr (.inl ⟨_, rfl⟩)
      · exact .inr (.inr ⟨given, rfl, Bool.eq_false_iff.mpr hhelp, rfl⟩)

theorem fits_performGenerateConfig (arguments : List String) (before : State) :
    ((performGenerateConfig arguments).run before).1.Fits before
      ((performGenerateConfig arguments).run before).2 := by
  rcases performGenerateConfig_cases arguments with
    ⟨_, _, _, hperform⟩ | ⟨error, hperform⟩ | ⟨given, _, _, hperform⟩ <;> rw [hperform]
  · exact fits_success _ before before
  · exact fits_misuse _ before
  · rcases run_performTemplate ((given.value? .output).getD Settings.defaultFileName) before with
      ⟨stdout, after, hrun, -⟩ | ⟨report, hrun, hfits, -⟩ <;> rw [hrun]
    · exact fits_success stdout before after
    · exact hfits

theorem answers_performIntrospectionQuery (arguments : List String) :
    (performIntrospectionQuery arguments).Answers := by
  rw [performIntrospectionQuery]
  split
  · exact .misuse _
  · split
    · exact .success _
    · split
      · exact .misuse _
      · exact .success _

/-! ### All calls -/

theorem run_perform (arguments : List String) (before : State) :
    (perform arguments).run before =
      (((dispatch arguments).run before).1.withoutControls, ((dispatch arguments).run before).2) :=
  Action.run_bind (dispatch arguments) _ before

/-- The report of a call fits what it does. -/
theorem fits_perform (arguments : List String) (before : State) :
    ((perform arguments).run before).1.Fits before ((perform arguments).run before).2 := by
  rw [run_perform]
  refine Report.Fits.withoutControls ?_
  rcases calls_or_answers arguments with ⟨command, rest, hcalls⟩ | ⟨report, hanswers, hdispatch⟩
  · rw [hcalls.dispatch_eq]
    cases command with
    | render => exact fits_performRender rest before
    | generateConfig => exact fits_performGenerateConfig rest before
    | introspectionQuery => exact (answers_performIntrospectionQuery rest).fits before
  · rw [hdispatch]
    exact hanswers.fits before

/-! ### What is told -/

/-- What is printed of an outcome: its text, or a line for each file that has been written, without
control sequences. -/
def shownText (outcome : Generation.Outcome) : String :=
  match outcome.stdoutText with
  | some text => Text.withoutControls text
  | none =>
    String.join (outcome.writtenPaths.map fun path => Text.withoutControls path.text ++ "\n")

theorem withoutControls_outcomeText (outcome : Generation.Outcome) :
    Text.withoutControls (outcomeText outcome) = shownText outcome := by
  rw [outcomeText, shownText]
  rcases outcome.stdoutText with _ | text
  · have hlines := Text.withoutControls_lines (outcome.writtenPaths.map Path.text)
    rwa [List.map_map, List.map_map] at hlines
  · rfl

/-- A call whose options pass the checks and whose run succeeds prints the outcome. -/
theorem run_perform_render_of_ok (arguments : List String) {given : Given RenderOption}
    {outcome : Generation.Outcome}
    (hdivide : divide renderSwitches true arguments = .ok given) (hhelp : given.has .help = false)
    (hcheck : ((checkRender given).exec before).1 = .ok ())
    (hrun : (Generation.run (requestOf given)).exec before = (.ok outcome, after)) :
    (perform ("render" :: arguments)).run before =
      ({ Report.success (shownText outcome) with verbose := given.has .verbose }, after) := by
  rw [run_perform_render, run_performRender_of_check hdivide hhelp hcheck, run_performRun, hrun,
    ← withoutControls_outcomeText]
  rfl

/-- What the report of a call that renders tells. -/
structure RenderTells (arguments : List String) (before : State) (report : Report) (after : State) :
    Prop where
  /-- With 1 the run has failed, and its error is printed. -/
  failed : report.exit = .ok 1 → ∃ given error,
    divide renderSwitches true arguments = .ok given ∧
      (Generation.run (requestOf given)).exec before = (.error (.reported error), after) ∧
      (given.has .verbose = false →
        ∀ notes, report.errorText notes = Text.withoutControls error.message ++ "\n")
  /-- With 0 help has been asked for, or the run has succeeded, and its outcome is printed. -/
  succeeded : report.exit = .ok 0 → ∃ given,
    divide renderSwitches true arguments = .ok given ∧
      (given.has .help = true ∧ after = before ∨
        given.has .help = false ∧ ∃ outcome,
          (Generation.run (requestOf given)).exec before = (.ok outcome, after) ∧
            report.stdout = shownText outcome)

/-- What the report of a call that writes the template tells. -/
structure TemplateTells (arguments : List String) (before : State) (report : Report)
    (after : State) : Prop where
  /-- Nothing that is there is changed. -/
  kept : ∀ location entry, before.files.at? location = some entry →
    after.files.at? location = some entry
  /-- With 0 help has been asked for, or there is one new file, with the template. -/
  written : report.exit = .ok 0 → ∃ given,
    divide templateSwitches true arguments = .ok given ∧
      (given.has .help = true ∧ after = before ∨
        given.has .help = false ∧
          Settings.AddsTemplate
            (Path.ofString ((given.value? .output).getD Settings.defaultFileName)) before after)
  /-- With any other end nothing is done. -/
  unwritten : report.exit ≠ .ok 0 → after = before

theorem renderTells_performRender (arguments : List String) (before : State) :
    RenderTells arguments before ((performRender arguments).run before).1.withoutControls
      ((performRender arguments).run before).2 := by
  rcases hdivide : divide renderSwitches true arguments with error | given
  · rw [performRender, hdivide]
    exact ⟨by rintro ⟨⟩, by rintro ⟨⟩⟩
  · rcases run_performRender hdivide before with ⟨hhelp, hrun⟩ | ⟨error, hrun⟩ | ⟨hhelp, hrun⟩ <;>
      rw [hrun]
    · exact ⟨by rintro ⟨⟩, fun _ => ⟨given, hdivide, .inl ⟨hhelp, rfl⟩⟩⟩
    · exact ⟨by rintro ⟨⟩, by rintro ⟨⟩⟩
    · rw [run_performRun]
      rcases hexec : (Generation.run (requestOf given)).exec before with
        ⟨(error | cause) | outcome, after⟩
      · refine ⟨fun _ => ⟨given, error, hdivide, hexec, fun hquiet notes => ?_⟩, by rintro ⟨⟩⟩
        rw [Report.errorText, Report.withoutControls, hquiet, if_neg Bool.false_ne_true,
          String.empty_append]
        exact Text.withoutControls_line error.message
      · exact ⟨by rintro ⟨⟩, by rintro ⟨⟩⟩
      · exact ⟨by rintro ⟨⟩, fun _ => ⟨given, hdivide,
          .inr ⟨hhelp, outcome, hexec, withoutControls_outcomeText outcome⟩⟩⟩

theorem templateTells_performGenerateConfig (arguments : List String) (before : State) :
    TemplateTells arguments before ((performGenerateConfig arguments).run before).1.withoutControls
      ((performGenerateConfig arguments).run before).2 := by
  rcases performGenerateConfig_cases arguments with
    ⟨given, hdivide, hhelp, hperform⟩ | ⟨error, hperform⟩ | ⟨given, hdivide, hhelp, hperform⟩ <;>
    rw [hperform]
  · exact ⟨fun _ _ h => h, fun _ => ⟨given, hdivide, .inl ⟨hhelp, rfl⟩⟩, fun _ => rfl⟩
  · exact ⟨fun _ _ h => h, by rintro ⟨⟩, fun _ => rfl⟩
  · rcases run_performTemplate ((given.value? .output).getD Settings.defaultFileName) before with
      ⟨stdout, after, hrun, hadds⟩ | ⟨report, hrun, -, hexit⟩ <;> rw [hrun]
    · exact ⟨fun _ _ => hadds.files.kept, fun _ => ⟨given, hdivide, .inr ⟨hhelp, hadds⟩⟩,
        fun h => absurd rfl h⟩
    · exact ⟨fun _ _ h => h, fun h => absurd h hexit, fun _ => rfl⟩

/-- **Exit codes tell what has happened.** Whatever the arguments of a call are, and whatever the
host is like: with 2 nothing has been done, and standard output is empty; with 1 standard output is
empty, too. A call that renders ends with 1 if its run has failed, and prints the message of the
error, and with 0 if the run has succeeded or help has been asked for; then it prints the outcome.
The message and the outcome are printed without their control sequences. A call that writes the
template never changes what is there: with 0 there is exactly one new file, with the template,
unless help has been asked for, and otherwise nothing has been done. A call that prints the query
does nothing. -/
theorem exit_code_tells (arguments : List String) (before : State) :
    ∃ report after, (perform arguments).run before = (report, after) ∧
      (report.exit = .ok 2 → report.stdout = "" ∧ after = before) ∧
      (report.exit = .ok 1 → report.stdout = "") ∧
      (∀ rest, Calls arguments .render rest → RenderTells rest before report after) ∧
      (∀ rest, Calls arguments .generateConfig rest → TemplateTells rest before report after) ∧
      ∀ rest, Calls arguments .introspectionQuery rest → after = before := by
  have hfits := fits_perform arguments before
  have hrun := run_perform arguments before
  refine ⟨_, _, rfl, ?_, ?_, ?_, ?_, ?_⟩
  · exact fun hexit => ⟨hfits.stdout_of_failure (by simp [hexit]), hfits.unchanged hexit⟩
  · exact fun hexit => hfits.stdout_of_failure (by simp [hexit])
  · intro rest hcalls
    rw [hrun, hcalls.dispatch_eq]
    exact renderTells_performRender rest before
  · intro rest hcalls
    rw [hrun, hcalls.dispatch_eq]
    exact templateTells_performGenerateConfig rest before
  · intro rest hcalls
    rw [hrun, hcalls.dispatch_eq]
    rfl

/-- A path whose text ends with a control sequence. -/
def colouredPath : String := "plain\x1b[31m"

/-- A host without files, whose standard input holds a schema with a description in colour. -/
def colouredHost : State :=
  { Generation.bareHost with
    input := Text.Utf8.encode
      ("\x7b\"data\":\x7b\"__schema\":\x7b\"types\":[\x7b\"kind\":\"SCALAR\",\"name\":\"Date\"," ++
        "\"description\":\"\\u001b[31mred\"\x7d]\x7d\x7d\x7d") }

/-- A call for help on the template ends with 0 without a new file, and neither the message of an
error, nor the documents, nor the path of a file are printed as they are if there is a colour in
them. -/
theorem help_adds_no_file_and_colours_are_dropped :
    (∃ report, (perform ["generate-config", "-h"]).run colouredHost = (report, colouredHost) ∧
        report.exit = .ok 0) ∧
      (∃ report after error,
        (perform ["render", "--json", colouredPath]).run colouredHost = (report, after) ∧
          (Generation.run { jsonPath := some colouredPath }).exec colouredHost =
            (.error (.reported error), after) ∧
          report.exit = .ok 1 ∧ report.errorText after.notes ≠ error.message ++ "\n") ∧
      (∃ report after outcome text, (perform ["render"]).run colouredHost = (report, after) ∧
          (Generation.run {}).exec colouredHost = (.ok outcome, after) ∧
          report.exit = .ok 0 ∧ outcome.stdoutText = some text ∧ report.stdout ≠ text) ∧
      ∃ report after outcome,
        (perform ["render", "--out-dir", colouredPath]).run colouredHost = (report, after) ∧
          (Generation.run { outDir := some colouredPath }).exec colouredHost =
            (.ok outcome, after) ∧
          report.exit = .ok 0 ∧ outcome.stdoutText = none ∧
          report.stdout ≠ String.join (outcome.writtenPaths.map fun path => path.text ++ "\n") := by
  refine ⟨⟨_, rfl, rfl⟩, ⟨_, _, _, rfl, rfl, rfl, by decide +kernel⟩, ?_, ?_⟩
  · have hdone : ((Generation.run {}).exec colouredHost).1.toOption.map (·.stdoutText) =
        some (some "# Scalars\n\n## <a name=\"date\"></a>Date\n\n> \x1b[31mred\n\n\n") := by
      decide +kernel
    obtain ⟨outcome, after, hrun, htext⟩ := Attempt.exists_of_map_toOption hdone
    have hreport := run_perform_render_of_ok [] rfl rfl rfl hrun
    refine ⟨_, after, outcome, _, hreport, hrun, rfl, htext, ?_⟩
    simp only [shownText, htext]
    decide
  · have hdone : ((Generation.run { outDir := some colouredPath }).exec colouredHost).1.toOption.map
        (fun outcome => (outcome.stdoutText, outcome.writtenPaths.map Path.text)) =
          some (none, ["plain\x1b[31m/scalars.md"]) := by
      decide +kernel
    obtain ⟨outcome, after, hrun, hshown⟩ := Attempt.exists_of_map_toOption hdone
    obtain ⟨htext, hpaths⟩ := Prod.mk.inj hshown
    have hreport := run_perform_render_of_ok ["--out-dir", colouredPath] rfl rfl rfl hrun
    refine ⟨_, after, outcome, hreport, hrun, rfl, htext, ?_⟩
    have hlines : outcome.writtenPaths.map (fun path => path.text ++ "\n") =
        (outcome.writtenPaths.map Path.text).map (· ++ "\n") := by
      rw [List.map_map]
      rfl
    have hdropped : Text.withoutControls (outcomeText outcome) = "plain/scalars.md\n" := by
      rw [outcomeText, htext, hlines, hpaths]
      decide
    rw [hlines, hpaths, ← withoutControls_outcomeText, hdropped]
    decide

end SchemaPages.CommandLine
