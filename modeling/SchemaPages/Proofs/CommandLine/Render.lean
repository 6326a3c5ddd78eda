import SchemaPages.CommandLine.Basic
import SchemaPages.Proofs.CommandLine.Options
import SchemaPages.Proofs.Generation.Stages
import SchemaPages.Proofs.Number.Literal

/-!
# The command that renders ends with an exit code

A request can be written as a command line, which is read back as the request
(`says_renderArguments`). The options of a command line are checked without a change to the host,
and the exit code is that of a wrong use, or says how the run ends (`exit_performRun`). So a command
line without a configuration file always ends with an exit code, as every failure of its run is
reported (`every_failure_reported`).
-/

namespace SchemaPages.CommandLine

open Generation (Request)
open Host (Action Attempt Failed State Leaves Reply)

variable {request : Request} {given : Given RenderOption} {arguments : List String}
  {before : State}

/-! ### The command line of a request -/

/-- The long name of an option. -/
def longName (key : RenderOption) : String :=
  ((renderSwitches.find? (·.key = key)).map (·.long)).getD ""

/-- The values that a request has for an option. -/
def optionValues (request : Request) : RenderOption → List String
  | .url => request.url.toList
  | .json => request.jsonPath.toList
  | .schema => request.schemaPath.toList
  | .header => request.headers
  | .outDir => request.outDir.toList
  | .frontMatter => request.frontMatter.toList
  | .config => request.configPath.toList
  | .timeout => (request.timeoutSeconds.map toString).toList
  | .verbose => []
  | .help => []

/-- The options that say what a request says. -/
def requestOptions (request : Request) : List (RenderOption × String) :=
  grouped (renderSwitches.map (·.key)) (optionValues request)

/-- The arguments that say what a request says. -/
def renderArguments (request : Request) : List String :=
  written longName (requestOptions request)

/-- Whether arguments of the command that renders say what a request says. -/
def Says (arguments : List String) (request : Request) : Prop :=
  ∃ given, divide renderSwitches true arguments = .ok given ∧ requestOf given = request

theorem announces_longName {key : RenderOption} {value : String}
    (h : (key, value) ∈ requestOptions request) : Announces renderSwitches (longName key) key := by
  obtain ⟨-, hvalue⟩ := mem_grouped.mp h
  cases key with
  | verbose => exact absurd hvalue List.not_mem_nil
  | help => exact absurd hvalue List.not_mem_nil
  | _ => exact ⟨by decide, by decide, by decide, _, rfl⟩

theorem divide_renderArguments (request : Request) :
    divide renderSwitches true (renderArguments request) = .ok ⟨requestOptions request, []⟩ :=
  divide_written (fun _ h => announces_longName h) true

theorem values_requestOptions (request : Request) (key : RenderOption) :
    Given.values ⟨requestOptions request, []⟩ key = optionValues request key :=
  values_grouped (by decide) (by cases key <;> decide) _ []

theorem value?_requestOptions (request : Request) (key : RenderOption) :
    Given.value? ⟨requestOptions request, []⟩ key = (optionValues request key).getLast? := by
  rw [Given.value?, values_requestOptions]

/-- A time-out is read back if it is one. -/
theorem parseTimeout_toString (seconds : Int) :
    parseTimeout (toString seconds) =
      if seconds < 1 then .error (.notPositive seconds) else .ok seconds := by
  rw [parseTimeout, Number.readInt_toString]

/-- The request without a time-out that no command line can say. -/
def sayable (request : Request) : Request :=
  { request with timeoutSeconds := request.timeoutSeconds.filter (1 ≤ ·) }

theorem requestOf_requestOptions (request : Request) :
    requestOf ⟨requestOptions request, []⟩ = sayable request := by
  have hlast : ∀ value : Option String, value.toList.getLast? = value := by
    rintro (_ | _) <;> rfl
  have htimeout : ((request.timeoutSeconds.map toString).bind fun text =>
      (parseTimeout text).toOption) = request.timeoutSeconds.filter (1 ≤ ·) := by
    rcases request.timeoutSeconds with _ | seconds
    · rfl
    · rw [Option.map_some, Option.bind_some, parseTimeout_toString, Option.filter_some]
      by_cases h : seconds < 1
      · rw [if_pos h, if_neg (by simpa using h)]
        rfl
      · rw [if_neg h, if_pos (by simpa using h)]
        rfl
  simp only [requestOf, value?_requestOptions, values_requestOptions, optionValues, hlast, htimeout,
    sayable]

theorem says_sayable (request : Request) : Says (renderArguments request) (sayable request) :=
  ⟨_, divide_renderArguments request, requestOf_requestOptions request⟩

/-- The command line of a request says what the request says. -/
theorem says_renderArguments
    (h : ∀ seconds, request.timeoutSeconds = some seconds → 1 ≤ seconds) :
    Says (renderArguments request) request := by
  have htimeout : request.timeoutSeconds.filter (1 ≤ ·) = request.timeoutSeconds := by
    rcases hseconds : request.timeoutSeconds with _ | seconds
    · rfl
    · rw [Option.filter_some, if_pos (decide_eq_true (h seconds hseconds))]
  have hsaid := says_sayable request
  rwa [sayable, htimeout] at hsaid

/-! ### Checks -/

/-- To find out whether a text leads to a file changes nothing. -/
theorem asks_leadsToFile (text : String) :
    (Attempt.of (leadsToFile text) : Attempt UsageError Bool).Asks (Leaves id) := by
  intro state asked hasked
  rw [Attempt.asked_of, leadsToFile] at hasked
  split at hasked
  · exact absurd hasked List.not_mem_nil
  · rcases List.mem_cons.mp hasked with rfl | hrest
    · exact fun _ => rfl
    · simp only [Action.bind] at hrest
      split at hrest <;> exact absurd hrest List.not_mem_nil

theorem asks_checkOption (given : Given RenderOption) (key : RenderOption) :
    (checkOption given key).Asks (Leaves id) := by
  cases key with
  | outDir =>
    refine (asks_leadsToFile _).bind fun found => ?_
    split
    · exact Attempt.asks_throw _
    · exact Attempt.asks_pure _
  | timeout =>
    rw [checkOption]
    cases parseTimeout ((given.value? .timeout).getD "") with
    | error error => exact Attempt.asks_throw error
    | ok seconds => exact Attempt.asks_pure ()
  | _ => exact Attempt.asks_pure ()

/-- The options are checked without a change to the host. -/
theorem asks_checkRender (given : Given RenderOption) : (checkRender given).Asks (Leaves id) := by
  refine (Attempt.asks_forM (asks_checkOption given) given.keys).bind fun _ => ?_
  split
  · exact Attempt.asks_throw _
  · exact Attempt.asks_pure ()

/-! ### Exit codes -/

/-- Whether a report ends a call with one of its exit codes. -/
def Report.HasCode (report : Report) : Prop :=
  ∃ code ≤ 2, report.exit = .ok code

theorem Report.hasCode_usage (command : Option Command) (error : UsageError) :
    (Report.usage command error).HasCode :=
  ⟨2, Nat.le_refl 2, rfl⟩

/-- The report on what comes of a run. -/
def runReport : Except (Failed Generation.Error) Generation.Outcome → Report
  | .ok outcome => .success (outcomeText outcome)
  | .error (.reported error) => .failure error.message
  | .error (.broken cause) => .breakdown cause

/-- The report shows the notes if they are asked for. -/
theorem run_performRun (given : Given RenderOption) (before : State) :
    (performRun given).run before =
      ({ runReport ((Generation.run (requestOf given)).exec before).1 with
          verbose := given.has .verbose },
        ((Generation.run (requestOf given)).exec before).2) := by
  rw [performRun, Attempt.run_run_bind]
  rcases (Generation.run (requestOf given)).exec before with ⟨(_ | _) | _, _⟩ <;> rfl

/-- A run that ends with an outcome ends the call with 0, one with an error that is reported ends it
with 1, and one that breaks down breaks it. -/
theorem exit_performRun (given : Given RenderOption) (before : State) :
    ((performRun given).run before).1.exit =
      match ((Generation.run (requestOf given)).exec before).1 with
      | .ok _ => .ok 0
      | .error (.reported _) => .ok 1
      | .error (.broken cause) => .error cause := by
  rw [run_performRun]
  rcases (Generation.run (requestOf given)).exec before with ⟨(_ | _) | _, _⟩ <;> rfl

theorem hasCode_performRun (hconfig : given.value? .config = none)
    (hreplies : ∀ fault, Reply.broken fault ∉ before.replies) :
    ((performRun given).run before).1.HasCode := by
  have hexit := exit_performRun given before
  rcases hrun : (Generation.run (requestOf given)).exec before with
    ⟨(error | cause) | outcome, after⟩ <;> rw [hrun] at hexit
  · exact ⟨1, by decide, hexit⟩
  · exact (Generation.reports_run hconfig hreplies _ _ hrun).elim
  · exact ⟨0, by decide, hexit⟩

/-- Options ask for help, are wrong, or lead to a run on the host as it is. -/
theorem run_performRender (hdivide : divide renderSwitches true arguments = .ok given)
    (before : State) :
    (given.has .help = true ∧
        (performRender arguments).run before = (.success (helpText (some .render)), before)) ∨
      (∃ error, (performRender arguments).run before = (.usage (some .render) error, before)) ∨
      given.has .help = false ∧
        (performRender arguments).run before = (performRun given).run before := by
  have hkept : ((checkRender given).exec before).2 = before :=
    (asks_checkRender given).unchanged before
  rw [performRender, hdivide]
  dsimp only
  -- Help goes before everything else, and the checks before the run.
  split
  · next hhelp => exact .inl ⟨hhelp, rfl⟩
  · next hhelp =>
    rw [Attempt.run_run_bind, hkept]
    rcases ((checkRender given).exec before).1 with error | ⟨⟩
    · exact .inr (.inl ⟨error, rfl⟩)
    · exact .inr (.inr ⟨Bool.eq_false_iff.mpr hhelp, rfl⟩)

/-- Options that pass the checks lead to a run. -/
theorem run_performRender_of_check (hdivide : divide renderSwitches true arguments = .ok given)
    (hhelp : given.has .help = false) (hcheck : ((checkRender given).exec before).1 = .ok ()) :
    (performRender arguments).run before = (performRun given).run before := by
  have hkept : ((checkRender given).exec before).2 = before :=
    (asks_checkRender given).unchanged before
  rw [performRender, hdivide]
  dsimp only
  rw [if_neg (Bool.eq_false_iff.mp hhelp), Attempt.run_run_bind, hcheck, hkept]

/-- Without a configuration file the command that renders ends with an exit code. -/
theorem hasCode_performRender
    (hconfig : ∀ given, divide renderSwitches true arguments = .ok given →
      given.value? .config = none)
    (hreplies : ∀ fault, Reply.broken fault ∉ before.replies) :
    ((performRender arguments).run before).1.HasCode := by
  rcases hdivide : divide renderSwitches true arguments with error | given
  · rw [performRender, hdivide]
    exact Report.hasCode_usage _ _
  · rcases run_performRender hdivide before with ⟨-, hhelp⟩ | ⟨error, herror⟩ | ⟨-, hrun⟩
    · exact ⟨0, by decide, hhelp ▸ rfl⟩
    · exact herror ▸ Report.hasCode_usage _ error
    · exact hrun ▸ hasCode_performRun (hconfig given hdivide) hreplies

theorem run_perform_render (arguments : List String) (before : State) :
    (perform ("render" :: arguments)).run before =
      (((performRender arguments).run before).1.withoutControls,
        ((performRender arguments).run before).2) := by
  have hdispatch : dispatch ("render" :: arguments) = performRender arguments := rfl
  rw [perform, hdispatch]
  exact Action.run_bind (performRender arguments) _ before

/-- A command line that says a request without a configuration file ends with an exit code. -/
theorem hasCode_perform_render (hsaid : Says arguments request)
    (hconfig : request.configPath = none)
    (hreplies : ∀ fault, Reply.broken fault ∉ before.replies) :
    ((perform ("render" :: arguments)).run before).1.HasCode := by
  obtain ⟨given, hdivide, rfl⟩ := hsaid
  have hcode : ((performRender arguments).run before).1.HasCode := by
    refine hasCode_performRender (fun other hother => ?_) hreplies
    cases hdivide.symm.trans hother
    exact hconfig
  rw [run_perform_render]
  exact hcode

/-- **Every failure is reported.** Take a request without a configuration file, and any host whose
client does not break. The run ends with an outcome or with an error that it reports, and every
command line that says the request ends with an exit code. The command line that is made from the
request says it if its time-out is positive, and ends with an exit code whatever the time-out is. -/
theorem every_failure_reported (hconfig : request.configPath = none)
    (hreplies : ∀ fault, Reply.broken fault ∉ before.replies) :
    ((∃ outcome after, (Generation.run request).exec before = (.ok outcome, after)) ∨
        ∃ error after,
          (Generation.run request).exec before = (.error (.reported error), after)) ∧
      (∀ arguments, Says arguments request →
        ((perform ("render" :: arguments)).run before).1.HasCode) ∧
      ((∀ seconds, request.timeoutSeconds = some seconds → 1 ≤ seconds) →
        Says (renderArguments request) request) ∧
      ((perform ("render" :: renderArguments request)).run before).1.HasCode := by
  refine ⟨?_, fun arguments hsaid => hasCode_perform_render hsaid hconfig hreplies,
    says_renderArguments, ?_⟩
  · rcases hrun : (Generation.run request).exec before with ⟨(error | cause) | outcome, after⟩
    · exact .inr ⟨error, after, rfl⟩
    · exact (Generation.reports_run hconfig hreplies _ _ hrun).elim
    · exact .inl ⟨outcome, after, rfl⟩
  · -- With another time-out the options still say a request without a configuration file.
    exact hasCode_perform_render (says_sayable request) hconfig hreplies

/-- A host whose standard input is no text. -/
def garbledHost : State :=
  { Generation.bareHost with input := [0xFF] }

/-- A request for files with a time-out. -/
def timedRequest : Request :=
  { outDir := some "out", timeoutSeconds := some 5 }

/-- Bytes that are no text are reported, and the command line of the request ends with an exit
code. -/
theorem every_failure_reported_garbled :
    (∃ error after,
        (Generation.run timedRequest).exec garbledHost = (.error (.reported error), after)) ∧
      ((perform ["render", "--out-dir", "out", "--timeout", "5"]).run garbledHost).1.HasCode := by
  have hfailed : ((Generation.run timedRequest).exec garbledHost).1.toOption.isNone := by
    decide +kernel
  have harguments : renderArguments timedRequest = ["--out-dir", "out", "--timeout", "5"] := by
    decide +kernel
  obtain ⟨hreported, -, -, hcode⟩ := @every_failure_reported timedRequest
    garbledHost rfl fun fault => List.not_mem_nil
  rw [harguments] at hcode
  refine ⟨hreported.resolve_left ?_, hcode⟩
  rintro ⟨outcome, after, hrun⟩
  simp [hrun, Except.toOption] at hfailed

end SchemaPages.CommandLine
