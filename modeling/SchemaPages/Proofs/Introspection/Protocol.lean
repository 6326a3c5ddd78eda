import SchemaPages.Introspection.Fetch
import SchemaPages.Proofs.Host.Trace

/-!
# How a server is asked again

A reply that is a success, a final status or a fault of the client ends the dialogue with a server;
after any other one the message is sent again, as long as attempts are left. So the first reply that
ends the dialogue decides the outcome, or the last one that is waited for
(`exists_last_reply`). The induction is on the attempts that are left, for every state and every
number of the attempt: one attempt either ends the dialogue (`attempt_ends`) or pauses and leaves a
shorter dialogue with the replies that are still to come (`attempt_goes_on`).
-/

namespace SchemaPages.Host.State

/-- The reply to the message that is sent after `count` others. -/
def upcoming (state : State) (count : Nat) : Reply :=
  state.replies[count]?.getD noReply

variable (state : State) (message : Post)

theorem fst_reply : (state.reply message).1 = state.upcoming 0 := by
  rw [reply, upcoming]
  cases state.replies <;> rfl

theorem upcoming_reply (count : Nat) :
    (state.reply message).2.upcoming count = state.upcoming (count + 1) := by
  simp only [reply, upcoming]
  cases state.replies <;> simp

/-- If no fault of the client is to come, no coming reply is one. -/
theorem upcoming_ne_broken {state : State} {fault : ClientFault}
    (h : Reply.broken fault ∉ state.replies) (count : Nat) :
    state.upcoming count ≠ .broken fault := by
  intro hbroken
  rw [upcoming] at hbroken
  rcases hreply : state.replies[count]? with _ | reply <;> rw [hreply] at hbroken
  · cases hbroken
  · exact h (List.mem_of_getElem? (hreply.trans (congrArg some hbroken)))

end SchemaPages.Host.State

namespace SchemaPages.Introspection

open Host (Reply State Attempt Failed Action Exchange)

variable {plan : Plan} {left number : Nat} {before : State} {reply : Reply}

/-- Whether it may help to ask again after a reply: the connection failed, or a response that is no
success has one of certain statuses. -/
def isTransient : Reply → Bool
  | .response status _ => !isSuccess status && retryableStatuses.contains status
  | .lost _ => true
  | .broken _ => false

/-- What comes of a dialogue that has ended with the reply to the attempt with this number. -/
def settled (plan : Plan) (number : Nat) : Reply → Except (Failed FetchError) String
  | .response status body =>
    if isSuccess status then .ok body else .error (.reported (.status plan.url status))
  | .lost reason => .error (.reported (.unreachable plan.url number reason))
  | .broken fault => .error (.broken (.client fault))

/-- The messages and pauses of a dialogue in which the message is sent again so many times, from
the attempt with this number on. -/
def dialogue (plan : Plan) (number retries : Nat) : List Exchange :=
  (List.range' number retries).flatMap (fun attempt =>
    [.post plan.post, .pause (plan.pauseAfter attempt)]) ++ [.post plan.post]

/-! ### One attempt -/

/-- How an attempt goes on after a reply with this meaning. -/
def proceed (plan : Plan) (number : Nat) : Nat → Verdict → Attempt (Failed FetchError) String
  | _, .success body => return body
  | _, .failure error => Attempt.report error
  | _, .breakdown fault => Attempt.break (.client fault)
  | 0, .retry _ error => Attempt.report error
  | left + 1, .retry note _ => do
    Attempt.of (Action.note .warning .transport note)
    Attempt.request (.pause (plan.pauseAfter number))
    attempt plan left (number + 1)

theorem attempt_eq (plan : Plan) (left number : Nat) :
    attempt plan left number = (do
      Attempt.of (Action.note .debug .transport ("POST " ++ plan.url ++ " (attempt " ++
        toString number ++ "/" ++ toString plan.attempts ++ ")"))
      let reply ← Attempt.request (.send plan.post)
      proceed plan number left (verdict plan number reply)) := by
  rw [attempt]
  congr
  funext _
  congr
  funext reply
  cases verdict plan number reply <;> cases left <;> rfl

/-- An attempt sends the message and goes on with the first of the coming replies. -/
theorem exec_attempt (plan : Plan) (left number : Nat) (before : State) :
    ∃ sent : State, (∀ i, sent.upcoming i = before.upcoming (i + 1)) ∧
      (attempt plan left number).exec before =
        (proceed plan number left (verdict plan number (before.upcoming 0))).exec sent ∧
      (attempt plan left number).exchanges before =
        .post plan.post ::
          (proceed plan number left (verdict plan number (before.upcoming 0))).exchanges sent := by
  let noted := before.noted ⟨.debug, .transport, "POST " ++ plan.url ++ " (attempt " ++
    toString number ++ "/" ++ toString plan.attempts ++ ")"⟩
  have hreply : (noted.answer (.send plan.post)).1 = before.upcoming 0 :=
    State.fst_reply noted plan.post
  refine ⟨(noted.answer (.send plan.post)).2, State.upcoming_reply noted plan.post, ?_, ?_⟩
  · rw [attempt_eq, Attempt.exec_note_bind, Attempt.exec_request_bind, hreply]
  · rw [attempt_eq, Attempt.exchanges, Attempt.asked_note_bind, Attempt.asked_request_bind, hreply]
    rfl

/-- After a reply that is worth another attempt, an error is at hand if none is left. -/
theorem verdict_of_isTransient (plan : Plan) (number : Nat) (h : isTransient reply = true) :
    ∃ note error, verdict plan number reply = .retry note error ∧
      settled plan number reply = .error (.reported error) := by
  cases reply with
  | response status body =>
    simp only [isTransient, Bool.and_eq_true, Bool.not_eq_true'] at h
    refine ⟨(FetchError.status plan.url status).message ++ "; retrying", .status plan.url status,
      ?_, ?_⟩
    · rw [verdict, h.1, if_neg Bool.false_ne_true, if_pos h.2]
    · rw [settled, h.1, if_neg Bool.false_ne_true]
  | lost reason => exact ⟨_, _, rfl, rfl⟩
  | broken fault => cases h

/-- Any other reply decides the outcome, however many attempts are left. -/
theorem proceed_of_not_isTransient (h : isTransient reply = false) (sent : State) :
    (proceed plan number left (verdict plan number reply)).exec sent =
        (settled plan number reply, sent) ∧
      (proceed plan number left (verdict plan number reply)).exchanges sent = [] := by
  cases reply with
  | response status body =>
    by_cases hsuccess : isSuccess status = true
    · simp only [verdict, settled, if_pos hsuccess, proceed]
      exact ⟨rfl, rfl⟩
    · have hfinal : retryableStatuses.contains status = false := by
        simpa only [isTransient, hsuccess, Bool.not_false, Bool.true_and] using h
      simp only [verdict, settled, if_neg hsuccess, hfinal, if_neg Bool.false_ne_true, proceed]
      exact ⟨rfl, rfl⟩
  | lost reason => cases h
  | broken fault => cases left <;> exact ⟨rfl, rfl⟩

/-- A reply after which asking again does not help decides the outcome, and so does every reply if
no attempt is left. -/
theorem proceed_ends (plan : Plan) (number : Nat) (h : left = 0 ∨ isTransient reply = false)
    (sent : State) :
    (proceed plan number left (verdict plan number reply)).exec sent =
        (settled plan number reply, sent) ∧
      (proceed plan number left (verdict plan number reply)).exchanges sent = [] := by
  cases htransient : isTransient reply with
  | false => exact proceed_of_not_isTransient htransient sent
  | true =>
    have hleft : left = 0 := h.resolve_right (by simp [htransient])
    obtain ⟨note, error, hverdict, hsettled⟩ := verdict_of_isTransient plan number htransient
    rw [hleft, hverdict, hsettled]
    exact ⟨rfl, rfl⟩

/-- After a reply that is worth another attempt there is a pause, and the next attempt follows. -/
theorem proceed_goes_on (plan : Plan) (number left : Nat) (h : isTransient reply = true)
    (sent : State) :
    ∃ paused : State, paused.replies = sent.replies ∧
      (proceed plan number (left + 1) (verdict plan number reply)).exec sent =
        (attempt plan left (number + 1)).exec paused ∧
      (proceed plan number (left + 1) (verdict plan number reply)).exchanges sent =
        .pause (plan.pauseAfter number) :: (attempt plan left (number + 1)).exchanges paused := by
  obtain ⟨note, error, hverdict, -⟩ := verdict_of_isTransient plan number h
  rw [hverdict, proceed]
  refine ⟨((sent.noted ⟨.warning, .transport, note⟩).answer
    (.pause (plan.pauseAfter number))).2, rfl, ?_, ?_⟩
  · rw [Attempt.exec_note_bind, Attempt.exec_request_bind]
  · rw [Attempt.exchanges, Attempt.asked_note_bind, Attempt.asked_request_bind]
    rfl

/-- An attempt ends the dialogue with a reply after which asking again does not help, and with every
reply if no attempt is left. -/
theorem attempt_ends (plan : Plan) (left number : Nat) (before : State)
    (h : left = 0 ∨ isTransient (before.upcoming 0) = false) :
    ((attempt plan left number).exec before).1 = settled plan number (before.upcoming 0) ∧
      (attempt plan left number).exchanges before = [.post plan.post] := by
  obtain ⟨sent, -, hexec, hexchanges⟩ := exec_attempt plan left number before
  obtain ⟨hsettled, hnothing⟩ := proceed_ends plan number h sent
  rw [hexec, hexchanges, hsettled, hnothing]
  exact ⟨rfl, rfl⟩

/-- After any other reply there is a pause, and what follows is the dialogue of the next attempt
with the replies that are still to come. -/
theorem attempt_goes_on (plan : Plan) (left number : Nat)
    (h : isTransient (before.upcoming 0) = true) :
    ∃ paused : State, (∀ i, paused.upcoming i = before.upcoming (i + 1)) ∧
      ((attempt plan (left + 1) number).exec before).1 =
        ((attempt plan left (number + 1)).exec paused).1 ∧
      (attempt plan (left + 1) number).exchanges before =
        .post plan.post :: .pause (plan.pauseAfter number) ::
          (attempt plan left (number + 1)).exchanges paused := by
  obtain ⟨sent, hupcoming, hexec, hexchanges⟩ := exec_attempt plan (left + 1) number before
  obtain ⟨paused, hreplies, hrest, hpause⟩ := proceed_goes_on plan number left h sent
  refine ⟨paused, fun i => ?_, by rw [hexec, hrest], by rw [hexchanges, hpause]⟩
  rw [← hupcoming i, State.upcoming, State.upcoming, hreplies]

/-! ### The whole dialogue -/

theorem dialogue_succ (plan : Plan) (number retries : Nat) :
    dialogue plan number (retries + 1) =
      .post plan.post :: .pause (plan.pauseAfter number) :: dialogue plan (number + 1) retries := by
  rw [dialogue, List.range'_succ, List.flatMap_cons, List.append_assoc]
  rfl

/-- The same message is sent once more than it is repeated. -/
theorem messages_dialogue (plan : Plan) (number retries : Nat) :
    (dialogue plan number retries).filterMap Exchange.message? =
      List.replicate (retries + 1) plan.post := by
  induction retries generalizing number with
  | zero => rfl
  | succ retries ih =>
    rw [dialogue_succ, List.replicate_succ, ← ih (number + 1)]
    rfl

/-- There is one pause for each repetition, and it grows with the number of the attempt. -/
theorem pauses_dialogue (plan : Plan) (number retries : Nat) :
    (dialogue plan number retries).filterMap Exchange.seconds? =
      (List.range' number retries).map plan.pauseAfter := by
  induction retries generalizing number with
  | zero => rfl
  | succ retries ih =>
    rw [dialogue_succ, List.range'_succ, List.map_cons, ← ih (number + 1)]
    rfl

/-- The first reply that ends the dialogue decides its outcome, or the last one for which an attempt
is left. -/
theorem exists_last_reply (plan : Plan) (left number : Nat) (before : State) :
    ∃ retries ≤ left, (∀ i < retries, isTransient (before.upcoming i) = true) ∧
      (retries = left ∨ isTransient (before.upcoming retries) = false) ∧
      ((attempt plan left number).exec before).1 =
        settled plan (number + retries) (before.upcoming retries) ∧
      (attempt plan left number).exchanges before = dialogue plan number retries := by
  induction left generalizing number before with
  | zero =>
    obtain ⟨hresult, hexchanges⟩ := attempt_ends plan 0 number before (.inl rfl)
    exact ⟨0, Nat.le_refl 0, fun i hi => absurd hi (Nat.not_lt_zero i), .inl rfl, hresult,
      hexchanges⟩
  | succ left ih =>
    cases hfirst : isTransient (before.upcoming 0) with
    | false =>
      obtain ⟨hresult, hexchanges⟩ := attempt_ends plan (left + 1) number before (.inr hfirst)
      exact ⟨0, Nat.zero_le _, fun i hi => absurd hi (Nat.not_lt_zero i), .inr hfirst, hresult,
        hexchanges⟩
    | true =>
      obtain ⟨paused, hupcoming, hrest, hpause⟩ := attempt_goes_on plan left number hfirst
      obtain ⟨retries, hle, htransient, hlast, hresult, hdialogue⟩ := ih (number + 1) paused
      -- The replies of the shorter dialogue are those behind the first one of this dialogue.
      simp only [hupcoming] at htransient hlast hresult
      refine ⟨retries + 1, Nat.succ_le_succ hle, ?_, hlast.imp (congrArg (· + 1)) id, ?_, ?_⟩
      · rintro (_ | i) hi
        · exact hfirst
        · exact htransient i (Nat.lt_of_succ_lt_succ hi)
      · rw [hrest, hresult, Nat.add_right_comm, Nat.add_assoc]
      · rw [hpause, hdialogue, dialogue_succ]

/-- An error says behind the address what came of the last attempt, with another letter than a
message about no attempt. -/
theorem exists_message_eq {error : FetchError}
    (h : settled plan number reply = .error (.reported error)) :
    ∃ rest, error.message = "Introspection request to " ++ plan.url ++ rest ∧
      rest.toList[1]? ≠ some 'w' := by
  cases reply with
  | response status body =>
    rw [settled] at h
    split at h <;> cases h
    exact ⟨" returned status " ++ toString status, String.append_assoc .., by simp⟩
  | lost reason =>
    cases h
    -- The text ends with the reason, whatever that is, so only its start tells the messages apart.
    refine ⟨" failed after " ++ (toString number ++ (" attempts: " ++ reason)), ?_, by simp⟩
    simp only [← String.append_assoc]
    rfl
  | broken fault => cases h

/-- No error says that nothing was attempted. -/
theorem message_ne_notAttempted {error : FetchError}
    (h : settled plan number reply = .error (.reported error)) :
    error.message ≠ "Introspection request to " ++ plan.url ++ " was not attempted" := by
  obtain ⟨rest, hmessage, hletter⟩ := exists_message_eq h
  intro heq
  rw [hmessage, String.append_right_inj] at heq
  subst heq
  exact hletter rfl

/-- **Asking again.** A server is asked until its reply is no transient failure, at most
`max 1 (maxRetries + 1)` times. It gets the same message each time; between two messages, and
nowhere else, there is a pause that grows by the same amount each time; and the last reply decides
the outcome: the body of a success, an error with the status of any other response, an error with
the reason and the number of the attempts if the connection failed, and a fault of the client as it
is. No error says that nothing was attempted. -/
theorem fetch_ends_with_last_reply (plan : Plan) (before : State) :
    ∃ (retries : Nat) (after : State),
      (retries + 1 : Int) ≤ max 1 (plan.maxRetries + 1) ∧
      (∀ i < retries, isTransient (before.upcoming i) = true) ∧
      ((retries + 1 : Int) = max 1 (plan.maxRetries + 1) ∨
        isTransient (before.upcoming retries) = false) ∧
      (fetch plan).exec before =
        (settled plan (retries + 1) (before.upcoming retries), after) ∧
      after.sent = before.sent ++ List.replicate (retries + 1)
        ⟨plan.url, plan.sentHeaders, plan.timeoutSeconds, query⟩ ∧
      after.pauses = before.pauses ++
        (List.range' 1 retries).map (fun k => plan.retryBackoffSeconds * Float.ofNat k) ∧
      (fetch plan).exchanges before =
        (List.range' 1 retries).flatMap (fun k =>
          [.post ⟨plan.url, plan.sentHeaders, plan.timeoutSeconds, query⟩,
           .pause (plan.retryBackoffSeconds * Float.ofNat k)]) ++
        [.post ⟨plan.url, plan.sentHeaders, plan.timeoutSeconds, query⟩] ∧
      ∀ error, settled plan (retries + 1) (before.upcoming retries) = .error (.reported error) →
        error.message ≠ "Introspection request to " ++ plan.url ++ " was not attempted" := by
  obtain ⟨retries, hle, htransient, hlast, hresult, hdialogue⟩ :=
    exists_last_reply plan plan.retries 1 before
  have hretries : (plan.retries : Int) + 1 = max 1 (plan.maxRetries + 1) := by
    rw [Plan.retries]
    omega
  have hsent := Attempt.sent_exec (fetch plan) before
  have hpauses := Attempt.pauses_exec (fetch plan) before
  rw [fetch, hdialogue, messages_dialogue] at hsent
  rw [fetch, hdialogue, pauses_dialogue] at hpauses
  refine ⟨retries, ((fetch plan).exec before).2, by omega, htransient, ?_, ?_, hsent, hpauses,
    hdialogue, fun error => message_ne_notAttempted⟩
  · exact hlast.imp (fun heq => by omega) id
  · rw [Nat.add_comm retries 1, ← hresult]
    rfl

end SchemaPages.Introspection
