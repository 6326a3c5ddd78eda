import SchemaPages.Proofs.Host.Attempt

/-!
# What an attempt asks its host

The state that an execution leaves says nothing about files that have been read, nor about the order
of messages and pauses. `Attempt.asked` lists all requests of an execution, the first one first, and
follows the text of a program the way `exec` does (`asked_bind`). What a program cannot have done
follows from what it never asks: a part of the state that no request of an execution changes is
as it was (`exec_unchanged`). And the list misses nothing: the messages and pauses that a state
records are those of the list (`sent_exec`, `pauses_exec`).
-/

namespace SchemaPages.Host

variable {ε δ α β γ : Type}

/-- A request, whatever the type of its answer. -/
abbrev Asked := Σ β : Type, Request β

/-- The requests of an action that is carried out on a state, the first one first. -/
def Action.asked : Action α → State → List Asked
  | .done _, _ => []
  | .ask request next, state =>
    ⟨_, request⟩ :: (next (state.answer request).1).asked (state.answer request).2

theorem Action.asked_bind (action : Action α) (f : α → Action β) (state : State) :
    (action.bind f).asked state =
      action.asked state ++ (f (action.run state).1).asked (action.run state).2 := by
  induction action generalizing state with
  | done value => rfl
  | ask request next ih => simp only [Action.bind, Action.asked, Action.run, ih, List.cons_append]

/-- Whether a request leaves a part of the state as it is. -/
def Leaves (observe : State → γ) (asked : Asked) : Prop :=
  ∀ state : State, observe (state.answer asked.2).2 = observe state

/-- What no request of an action changes is as before. -/
theorem Action.run_unchanged (observe : State → γ) {action : Action α} {state : State}
    (h : ∀ asked ∈ action.asked state, Leaves observe asked) :
    observe (action.run state).2 = observe state := by
  induction action generalizing state with
  | done value => rfl
  | ask request next ih =>
    obtain ⟨hfirst, hrest⟩ := List.forall_mem_cons.mp h
    exact (ih _ hrest).trans (hfirst state)

/-- A part of the state to which every request adds what it is worth has all of it in the end. -/
theorem Action.run_appends (observe : State → List γ) (worth : Asked → Option γ)
    (hanswer : ∀ (asked : Asked) (state : State),
      observe (state.answer asked.2).2 = observe state ++ (worth asked).toList)
    (action : Action α) (state : State) :
    observe (action.run state).2 = observe state ++ (action.asked state).filterMap worth := by
  induction action generalizing state with
  | done value => simp [Action.run, Action.asked]
  | ask request next ih =>
    have hfirst := hanswer ⟨_, request⟩ state
    rw [Action.run, Action.asked, ih, hfirst, List.append_assoc, List.filterMap_cons]
    cases worth ⟨_, request⟩ <;> rfl

namespace Attempt

/-- The requests of an attempt that is carried out on a state, the first one first. -/
def asked (attempt : Attempt ε α) (state : State) : List Asked :=
  Action.asked attempt.run state

/-! ### Each form of attempt -/

@[simp]
theorem asked_pure (value : α) (state : State) :
    asked (pure value : Attempt ε α) state = [] :=
  rfl

@[simp]
theorem asked_throw (error : ε) (state : State) :
    asked (throw error : Attempt ε α) state = [] :=
  rfl

/-- The second part of a sequence asks from the state that the first one leaves, unless that one
fails. -/
theorem asked_bind (attempt : Attempt ε α) (next : α → Attempt ε β) (state : State) :
    (attempt >>= next).asked state =
      attempt.asked state ++
        match attempt.exec state with
        | (.ok value, after) => (next value).asked after
        | (.error _, _) => [] := by
  have hasked : (attempt >>= next).asked state = attempt.asked state ++
      Action.asked (ExceptT.bindCont next (attempt.exec state).1) (attempt.exec state).2 :=
    Action.asked_bind attempt.run (ExceptT.bindCont next) state
  rw [hasked]
  rcases attempt.exec state with ⟨outcome, after⟩
  cases outcome <;> rfl

@[simp]
theorem asked_of (action : Action α) (state : State) :
    (Attempt.of action : Attempt ε α).asked state = action.asked state := by
  have hasked : (Attempt.of action : Attempt ε α).asked state = action.asked state ++ [] :=
    Action.asked_bind action (fun value => .done (.ok value : Except ε α)) state
  rw [hasked, List.append_nil]

@[simp]
theorem asked_request (request : Request α) (state : State) :
    (Attempt.request request : Attempt ε α).asked state = [⟨α, request⟩] :=
  rfl

@[simp]
theorem asked_adapt (attempt : Attempt ε α) (f : ε → δ) (state : State) :
    asked (attempt.adapt f) state = attempt.asked state := by
  have hasked : asked (attempt.adapt f) state = attempt.asked state ++ [] :=
    Action.asked_bind attempt.run (fun outcome => .done (outcome.mapError f)) state
  rw [hasked, List.append_nil]

@[simp]
theorem asked_check (outcome : Except δ α) (f : δ → ε) (state : State) :
    (Attempt.check outcome f).asked state = [] := by
  cases outcome <;> rfl

@[simp]
theorem asked_request_bind (request : Request α) (next : α → Attempt ε β) (state : State) :
    (Attempt.request request >>= next).asked state =
      ⟨α, request⟩ :: (next (state.answer request).1).asked (state.answer request).2 := by
  rw [asked_bind, asked_request, exec_request, List.singleton_append]

@[simp]
theorem asked_note_bind (level : Level) (topic : Topic) (message : String)
    (next : Unit → Attempt ε β) (state : State) :
    (Attempt.of (Action.note level topic message) >>= next).asked state =
      ⟨Unit, .note ⟨level, topic, message⟩⟩ ::
        (next ()).asked (state.noted ⟨level, topic, message⟩) :=
  asked_request_bind (.note ⟨level, topic, message⟩) next state

/-- The rest of a sequence whose first part fails asks nothing. -/
theorem asked_bind_of_error {attempt : Attempt ε α} {error : ε} {state after : State}
    (h : attempt.exec state = (.error error, after)) (next : α → Attempt ε β) :
    (attempt >>= next).asked state = attempt.asked state := by
  rw [asked_bind, h, List.append_nil]

/-! ### Attempts that ask certain requests only -/

/-- Whatever the answers are, all requests of the attempt are of a certain form. -/
def Asks (attempt : Attempt ε α) (form : Asked → Prop) : Prop :=
  ∀ state, ∀ asked ∈ attempt.asked state, form asked

section

variable {form other : Asked → Prop} {attempt : Attempt ε α}

theorem Asks.mono (h : attempt.Asks form) (hform : ∀ asked, form asked → other asked) :
    attempt.Asks other :=
  fun state asked hasked => hform asked (h state asked hasked)

theorem asks_pure (value : α) : Asks (pure value : Attempt ε α) form := by
  intro state asked hasked
  rw [asked_pure] at hasked
  exact absurd hasked List.not_mem_nil

theorem asks_throw (error : ε) : Asks (throw error : Attempt ε α) form := by
  intro state asked hasked
  rw [asked_throw] at hasked
  exact absurd hasked List.not_mem_nil

theorem Asks.bind {next : α → Attempt ε β} (h : attempt.Asks form)
    (hnext : ∀ value, (next value).Asks form) : (attempt >>= next).Asks form := by
  intro state asked hasked
  rw [asked_bind] at hasked
  rcases List.mem_append.mp hasked with hfirst | hrest
  · exact h state asked hfirst
  · rcases hexec : attempt.exec state with ⟨_ | value, after⟩ <;> rw [hexec] at hrest
    · exact absurd hrest List.not_mem_nil
    · exact hnext value after asked hrest

theorem asks_forM {act : γ → Attempt ε PUnit} (h : ∀ item, (act item).Asks form)
    (items : List γ) : Asks (items.forM act) form := by
  induction items with
  | nil => exact asks_pure _
  | cons item rest ih => exact (h item).bind fun _ => ih

theorem asks_request {request : Request α} (h : form ⟨α, request⟩) :
    (Attempt.request request : Attempt ε α).Asks form := by
  intro state asked hasked
  rw [asked_request, List.mem_singleton] at hasked
  exact hasked ▸ h

theorem asks_note {level : Level} {topic : Topic} {message : String}
    (h : form ⟨Unit, .note ⟨level, topic, message⟩⟩) :
    (Attempt.of (Action.note level topic message) : Attempt ε Unit).Asks form :=
  asks_request h

theorem asks_check (outcome : Except δ α) (f : δ → ε) : (Attempt.check outcome f).Asks form := by
  intro state asked hasked
  rw [asked_check] at hasked
  exact absurd hasked List.not_mem_nil

theorem Asks.adapt {f : ε → δ} (h : attempt.Asks form) : Asks (attempt.adapt f) form := by
  intro state asked hasked
  rw [asked_adapt] at hasked
  exact h state asked hasked

theorem Asks.within {attempt : Attempt (Failed ε) α} {f : ε → δ} (h : attempt.Asks form) :
    (attempt.within f).Asks form :=
  h.adapt

end

/-- What no request of an execution changes is as before. -/
theorem exec_unchanged {observe : State → γ} {attempt : Attempt ε α} {state : State}
    (h : ∀ asked ∈ attempt.asked state, Leaves observe asked) :
    observe (attempt.exec state).2 = observe state :=
  Action.run_unchanged observe h

theorem Asks.unchanged {observe : State → γ} {attempt : Attempt ε α}
    (h : attempt.Asks (Leaves observe)) (state : State) :
    observe (attempt.exec state).2 = observe state :=
  exec_unchanged (h state)

end Attempt

/-! ### Messages and pauses -/

/-- A message to a server, or a pause. -/
inductive Exchange where
  | post (message : Post)
  | pause (seconds : Float)

/-- The message of an exchange. -/
def Exchange.message? : Exchange → Option Post
  | .post message => some message
  | .pause _ => none

/-- The length of a pause. -/
def Exchange.seconds? : Exchange → Option Float
  | .post _ => none
  | .pause seconds => some seconds

/-- The exchange that a request is. -/
def exchange? : Asked → Option Exchange
  | ⟨_, .send message⟩ => some (.post message)
  | ⟨_, .pause seconds⟩ => some (.pause seconds)
  | _ => none

/-- A request adds to the messages and to the pauses what it is worth as an exchange. -/
theorem recorded_answer (asked : Asked) (state : State) :
    (state.answer asked.2).2.sent =
        state.sent ++ ((exchange? asked).bind Exchange.message?).toList ∧
      (state.answer asked.2).2.pauses =
        state.pauses ++ ((exchange? asked).bind Exchange.seconds?).toList := by
  obtain ⟨_, request⟩ := asked
  cases request with
  | send message =>
    simp only [State.answer, State.reply]
    cases state.replies <;> simp [exchange?, Exchange.message?, Exchange.seconds?]
  | write path content =>
    simp only [State.answer]
    cases state.files.write state.working path content <;> simp [exchange?]
  | _ => simp [State.answer, exchange?, Exchange.message?, Exchange.seconds?]

namespace Attempt

/-- The messages and pauses of an attempt that is carried out on a state, in their order. -/
def exchanges (attempt : Attempt ε α) (state : State) : List Exchange :=
  (attempt.asked state).filterMap exchange?

/-- The state records all messages. -/
theorem sent_exec (attempt : Attempt ε α) (state : State) :
    (attempt.exec state).2.sent =
      state.sent ++ (attempt.exchanges state).filterMap Exchange.message? := by
  rw [exchanges, List.filterMap_filterMap]
  exact Action.run_appends State.sent _ (fun asked state => (recorded_answer asked state).1)
    attempt.run state

/-- The state records all pauses. -/
theorem pauses_exec (attempt : Attempt ε α) (state : State) :
    (attempt.exec state).2.pauses =
      state.pauses ++ (attempt.exchanges state).filterMap Exchange.seconds? := by
  rw [exchanges, List.filterMap_filterMap]
  exact Action.run_appends State.pauses _ (fun asked state => (recorded_answer asked state).2)
    attempt.run state

end Attempt

end SchemaPages.Host
