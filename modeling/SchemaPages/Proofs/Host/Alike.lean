import SchemaPages.Proofs.Host.Trace

/-!
# Executions that cannot be told apart

An action learns about its host from answers only. Take a relation between states that gives related
states the same answer to each request of an action, and that holds again afterwards (`Respects`).
The action does the same on related states then: it asks the same requests, ends with the same value
and leaves related states (`Action.run_alike`). The relation says which parts of a state may differ,
and only the requests of one of the two executions have to be looked at.
-/

namespace SchemaPages.Host

variable {ε δ α β γ : Type} {related : State → State → Prop}

/-- Whether a request has the same answer on related states, and leaves related states. -/
def Respects (related : State → State → Prop) (asked : Asked) : Prop :=
  ∀ state other : State, related state other →
    (state.answer asked.2).1 = (other.answer asked.2).1 ∧
      related (state.answer asked.2).2 (other.answer asked.2).2

/-- What a request leaves as it is stays related as it was. -/
theorem Respects.and_of_leaves {observe : State → γ} {asked : Asked} (h : Respects related asked)
    (hleaves : Leaves observe asked) (kept : γ → γ → Prop) :
    Respects (fun state other => related state other ∧ kept (observe state) (observe other))
      asked := by
  rintro state other ⟨hrelated, hkept⟩
  obtain ⟨hanswer, hafter⟩ := h state other hrelated
  exact ⟨hanswer, hafter, by rwa [hleaves, hleaves]⟩

/-- An action does the same on related states if its requests respect the relation. -/
theorem Action.run_alike {action : Action α} {state other : State}
    (h : ∀ asked ∈ action.asked state, Respects related asked) (hrelated : related state other) :
    (action.run state).1 = (action.run other).1 ∧
      related (action.run state).2 (action.run other).2 ∧
      action.asked state = action.asked other := by
  induction action generalizing state other with
  | done value => exact ⟨rfl, hrelated, rfl⟩
  | ask request next ih =>
    obtain ⟨hfirst, hrest⟩ := List.forall_mem_cons.mp h
    obtain ⟨hanswer, hafter⟩ := hfirst state other hrelated
    obtain ⟨hvalue, hfinal, hasked⟩ := ih _ hrest hafter
    -- The answers are equal, so both executions go on with the same action.
    simp only at hanswer
    simp only [Action.run, Action.asked, ← hanswer]
    exact ⟨hvalue, hfinal, congrArg _ hasked⟩

namespace Attempt

/-- Whether an attempt does the same on two states: it asks the same requests, has the same result,
and leaves related states. -/
structure Alike (attempt : Attempt ε α) (related : State → State → Prop) (state other : State) :
    Prop where
  result : (attempt.exec state).1 = (attempt.exec other).1
  after : related (attempt.exec state).2 (attempt.exec other).2
  asked : attempt.asked state = attempt.asked other

section

variable {attempt : Attempt ε α} {state other : State}

theorem Asks.alike (h : attempt.Asks (Respects related)) (hrelated : related state other) :
    attempt.Alike related state other := by
  obtain ⟨hresult, hafter, hasked⟩ := Action.run_alike (h state) hrelated
  exact ⟨hresult, hafter, hasked⟩

theorem Alike.mono {less : State → State → Prop} (h : attempt.Alike related state other)
    (hless : ∀ after after', related after after' → less after after') :
    attempt.Alike less state other :=
  ⟨h.result, hless _ _ h.after, h.asked⟩

theorem Alike.within {attempt : Attempt (Failed ε) α} {f : ε → δ}
    (h : attempt.Alike related state other) : (attempt.within f).Alike related state other where
  result := by rw [Attempt.within, exec_adapt, exec_adapt, h.result]
  after := by
    rw [Attempt.within, exec_adapt, exec_adapt]
    exact h.after
  asked := by rw [Attempt.within, asked_adapt, asked_adapt, h.asked]

/-- A sequence does the same if its first part does, and the rest does from there. -/
theorem Alike.bind {next : α → Attempt ε β} (h : attempt.Alike related state other)
    (hnext : ∀ value after after', attempt.exec state = (.ok value, after) →
      attempt.exec other = (.ok value, after') → related after after' →
      (next value).Alike related after after') :
    (attempt >>= next).Alike related state other := by
  obtain ⟨hresult, hafter, hasked⟩ := h
  rcases hexec : attempt.exec state with ⟨error | value, after⟩ <;>
    rcases hexec' : attempt.exec other with ⟨error' | value', after'⟩ <;>
    rw [hexec, hexec'] at hresult hafter <;> cases hresult
  · refine ⟨?_, ?_, ?_⟩
    · rw [exec_bind_of_error hexec, exec_bind_of_error hexec']
    · rwa [exec_bind_of_error hexec, exec_bind_of_error hexec']
    · rw [asked_bind_of_error hexec, asked_bind_of_error hexec', hasked]
  · obtain ⟨hvalue, hfinal, hrest⟩ := hnext value after after' hexec hexec' hafter
    refine ⟨?_, ?_, ?_⟩
    · rw [exec_bind_of_ok hexec, exec_bind_of_ok hexec', hvalue]
    · rwa [exec_bind_of_ok hexec, exec_bind_of_ok hexec']
    · rw [asked_bind, asked_bind, hexec, hexec', hasked]
      exact congrArg _ hrest

end

end Attempt

end SchemaPages.Host
