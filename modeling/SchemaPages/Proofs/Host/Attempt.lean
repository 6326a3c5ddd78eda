import Mathlib.Control.Basic
import SchemaPages.Host.Failure
import SchemaPages.Host.State

/-!
# Carrying out an attempt

`Attempt.exec` carries out an attempt on the state of a host: what comes of it, and the state it
leaves. One law for each way to build an attempt says what its execution is, and for a successful
execution the laws read backwards: a sequence succeeds when its first part does and the rest does
from there (`exec_bind_eq_ok_iff`). Facts about a program follow its text this way, and no proof
unfolds how attempts and actions are represented.
-/

namespace SchemaPages.Host

variable {ε δ α β : Type}

instance : LawfulMonad Action :=
  LawfulMonad.mk' Action Action.bind_done (fun _ _ => rfl) Action.bind_assoc

/-- The state in which something more has been noted. -/
def State.noted (state : State) (note : Note) : State :=
  { state with notes := state.notes ++ [note] }

namespace Attempt

/-- Carries out an attempt: its result and the state afterwards. -/
def exec (attempt : Attempt ε α) (state : State) : Except ε α × State :=
  Action.run attempt.run state

/-! ### Each form of attempt -/

@[simp]
theorem exec_pure (value : α) (state : State) :
    (pure value : Attempt ε α).exec state = (.ok value, state) :=
  rfl

@[simp]
theorem exec_throw (error : ε) (state : State) :
    (throw error : Attempt ε α).exec state = (.error error, state) :=
  rfl

/-- A sequence goes on from the state that its first part leaves, unless that part fails. -/
theorem exec_bind (attempt : Attempt ε α) (next : α → Attempt ε β) (state : State) :
    (attempt >>= next).exec state =
      match attempt.exec state with
      | (.ok value, after) => (next value).exec after
      | (.error error, after) => (.error error, after) := by
  have hrun : (attempt >>= next).exec state =
      Action.run (ExceptT.bindCont next (attempt.exec state).1) (attempt.exec state).2 :=
    Action.run_bind attempt.run (ExceptT.bindCont next) state
  rw [hrun]
  rcases attempt.exec state with ⟨outcome, after⟩
  cases outcome <;> rfl

@[simp]
theorem exec_of (action : Action α) (state : State) :
    (Attempt.of action : Attempt ε α).exec state =
      (.ok (action.run state).1, (action.run state).2) :=
  Action.run_bind action (fun value => .done (.ok value : Except ε α)) state

@[simp]
theorem exec_request (request : Request α) (state : State) :
    (Attempt.request request : Attempt ε α).exec state =
      (.ok (state.answer request).1, (state.answer request).2) :=
  rfl

@[simp]
theorem exec_adapt (attempt : Attempt ε α) (f : ε → δ) (state : State) :
    exec (attempt.adapt f) state = ((attempt.exec state).1.mapError f, (attempt.exec state).2) :=
  Action.run_bind attempt.run (fun outcome => .done (outcome.mapError f)) state

theorem exec_check (outcome : Except δ α) (f : δ → ε) (state : State) :
    (Attempt.check outcome f).exec state = (outcome.mapError f, state) := by
  cases outcome <;> rfl

@[simp]
theorem exec_note (level : Level) (topic : Topic) (message : String) (state : State) :
    (Attempt.of (Action.note level topic message) : Attempt ε Unit).exec state =
      (.ok (), state.noted ⟨level, topic, message⟩) :=
  rfl

/-- A sequence that starts with a request goes on with the answer. -/
@[simp]
theorem exec_request_bind (request : Request α) (next : α → Attempt ε β) (state : State) :
    (Attempt.request request >>= next).exec state =
      (next (state.answer request).1).exec (state.answer request).2 := by
  rw [exec_bind, exec_request]

@[simp]
theorem exec_note_bind (level : Level) (topic : Topic) (message : String)
    (next : Unit → Attempt ε β) (state : State) :
    (Attempt.of (Action.note level topic message) >>= next).exec state =
      (next ()).exec (state.noted ⟨level, topic, message⟩) :=
  exec_request_bind (.note ⟨level, topic, message⟩) next state

/-- An action that looks at what comes of an attempt goes on from the state that it leaves. -/
theorem run_run_bind (attempt : Attempt ε α) (next : Except ε α → Action β) (state : State) :
    Action.run (attempt.run >>= next) state =
      (next (attempt.exec state).1).run (attempt.exec state).2 :=
  Action.run_bind attempt.run next state

/-- A sequence whose first part fails goes no further. -/
theorem exec_bind_of_error {attempt : Attempt ε α} {error : ε} {state after : State}
    (h : attempt.exec state = (.error error, after)) (next : α → Attempt ε β) :
    (attempt >>= next).exec state = (.error error, after) := by
  rw [exec_bind, h]

/-- A sequence whose first part succeeds goes on from there. -/
theorem exec_bind_of_ok {attempt : Attempt ε α} {value : α} {state after : State}
    (h : attempt.exec state = (.ok value, after)) (next : α → Attempt ε β) :
    (attempt >>= next).exec state = (next value).exec after := by
  rw [exec_bind, h]

/-! ### Successful executions -/

/-- A sequence succeeds exactly when its first part does and the rest does from there. -/
theorem exec_bind_eq_ok_iff {attempt : Attempt ε α} {next : α → Attempt ε β} {value : β}
    {state final : State} :
    (attempt >>= next).exec state = (.ok value, final) ↔
      ∃ first middle, attempt.exec state = (.ok first, middle) ∧
        (next first).exec middle = (.ok value, final) := by
  rw [exec_bind]
  constructor
  · intro h
    rcases hfirst : attempt.exec state with ⟨_ | first, middle⟩ <;> rw [hfirst] at h
    · cases h
    · exact ⟨first, middle, rfl, h⟩
  · rintro ⟨first, middle, hfirst, hrest⟩
    rw [hfirst]
    exact hrest

theorem exec_adapt_eq_ok_iff {attempt : Attempt ε α} {f : ε → δ} {value : α}
    {state final : State} :
    exec (attempt.adapt f) state = (.ok value, final) ↔
      attempt.exec state = (.ok value, final) := by
  rw [exec_adapt]
  rcases attempt.exec state with ⟨_ | _, _⟩ <;> simp [Except.mapError]

/-- A check succeeds exactly when what it checks does, and changes nothing. -/
theorem exec_check_eq_ok_iff {outcome : Except δ α} {f : δ → ε} {value : α}
    {state final : State} :
    (Attempt.check outcome f).exec state = (.ok value, final) ↔
      outcome = .ok value ∧ final = state := by
  rw [exec_check]
  cases outcome <;> simp [Except.mapError, eq_comm]

/-- An execution from whose result something can be read off has succeeded. -/
theorem exists_of_map_toOption {attempt : Attempt ε α} {state : State} {view : α → β} {seen : β}
    (h : (attempt.exec state).1.toOption.map view = some seen) :
    ∃ value after, attempt.exec state = (.ok value, after) ∧ view value = seen := by
  rcases hexec : attempt.exec state with ⟨error | value, after⟩ <;> rw [hexec] at h
  · cases h
  · exact ⟨value, after, rfl, Option.some.inj h⟩

/-! ### Failing executions -/

/-- If the execution fails, then with an error of a certain form. -/
def FailsWith (attempt : Attempt ε α) (form : ε → Prop) (state : State) : Prop :=
  ∀ error after, attempt.exec state = (.error error, after) → form error

section

variable {form : ε → Prop} {other : δ → Prop} {attempt : Attempt ε α} {state : State}

theorem failsWith_pure (value : α) (state : State) :
    FailsWith (pure value : Attempt ε α) form state :=
  fun _ _ h => nomatch h

theorem failsWith_throw {error : ε} (h : form error) (state : State) :
    FailsWith (throw error : Attempt ε α) form state := by
  intro cause after hexec
  rw [exec_throw] at hexec
  cases hexec
  exact h

theorem failsWith_of (action : Action α) (state : State) :
    FailsWith (Attempt.of action : Attempt ε α) form state := by
  intro error after hexec
  rw [exec_of] at hexec
  cases hexec

theorem failsWith_check {outcome : Except δ α} {f : δ → ε}
    (h : ∀ cause, outcome = .error cause → form (f cause)) (state : State) :
    (Attempt.check outcome f).FailsWith form state := by
  intro error after hexec
  rw [exec_check] at hexec
  cases outcome <;> cases hexec
  exact h _ rfl

/-- A sequence fails in its first part, or in the rest after the first part has succeeded. -/
theorem FailsWith.bind {next : α → Attempt ε β} (h : attempt.FailsWith form state)
    (hnext : ∀ value after, attempt.exec state = (.ok value, after) →
      (next value).FailsWith form after) : (attempt >>= next).FailsWith form state := by
  intro error final hexec
  rcases hfirst : attempt.exec state with ⟨cause | value, after⟩
  · rw [exec_bind_of_error hfirst] at hexec
    cases hexec
    exact h _ _ hfirst
  · rw [exec_bind_of_ok hfirst] at hexec
    exact hnext value after hfirst error final hexec

theorem FailsWith.adapt {f : ε → δ} (h : attempt.FailsWith form state)
    (hf : ∀ error, form error → other (f error)) : FailsWith (attempt.adapt f) other state := by
  intro error after hexec
  rw [exec_adapt] at hexec
  rcases hfirst : attempt.exec state with ⟨cause | value, final⟩ <;> rw [hfirst] at hexec <;>
    cases hexec
  exact hf cause (h _ _ hfirst)

end

end Attempt

/-- Whether a failure is an error that is reported, and no breakdown. -/
def Failed.IsReported : Failed ε → Prop
  | .reported _ => True
  | .broken _ => False

theorem Failed.isReported_map {f : ε → δ} {failed : Failed ε} (h : failed.IsReported) :
    (failed.map f).IsReported := by
  cases failed with
  | reported error => trivial
  | broken cause => exact h

namespace Attempt

/-- If the execution fails, the failure is reported. -/
def Reports (attempt : Attempt (Failed ε) α) (state : State) : Prop :=
  attempt.FailsWith Failed.IsReported state

theorem Reports.within {attempt : Attempt (Failed ε) α} {f : ε → δ} {state : State}
    (h : attempt.Reports state) : (attempt.within f).Reports state :=
  FailsWith.adapt h fun _ => Failed.isReported_map

/-- An operation within another one breaks as it does on its own. -/
theorem exec_within_eq_broken_iff {attempt : Attempt (Failed ε) α} {f : ε → δ} {cause : Breakdown}
    {state after : State} :
    (attempt.within f).exec state = (.error (.broken cause), after) ↔
      attempt.exec state = (.error (.broken cause), after) := by
  rw [within, exec_adapt]
  rcases attempt.exec state with ⟨(error | other) | value, final⟩ <;>
    simp [Except.mapError, Failed.map]

/-- An operation within another one reports its error in another form. -/
theorem exec_within_of_reported {attempt : Attempt (Failed ε) α} {f : ε → δ} {error : ε}
    {state after : State} (h : attempt.exec state = (.error (.reported error), after)) :
    (attempt.within f).exec state = (.error (.reported (f error)), after) := by
  rw [within, exec_adapt, h]
  rfl

end Attempt

end SchemaPages.Host
