import Mathlib.Order.Nat
import SchemaPages.Proofs.Introspection.Protocol

/-!
# Failures after which a server is asked again

A failure may pass if the connection failed, if the server has been asked too much, or if it is the
server that failed (`mayPass`). The server is asked again after a failed connection and after
certain statuses only, and the statuses of a failing server are not all among them: a reply that may
pass is either transient or a response with one of the others (`isTransient_or_final`). So a success
behind some failures that may pass is reached exactly if all of them are transient, and else the
first one that is not ends the dialogue (`success_reached_iff`).
-/

namespace SchemaPages.Introspection

open Host (Post Reply State)

variable {plan : Plan} {before : State} {reply : Reply} {count : Nat} {status : Int} {body : String}

/-- Whether a reply is a failure that may pass. -/
def mayPass : Reply → Bool
  | .response status _ => status = 429 || (500 ≤ status && status < 600)
  | .lost _ => true
  | .broken _ => false

theorem isSuccess_of_failure (hlow : 400 ≤ status) (hhigh : status < 600) :
    isSuccess status = false := by
  simp [isSuccess, hlow, hhigh]

/-- A failure that may pass is transient, or a response of a failing server with a status after
which it is not asked again. -/
theorem isTransient_or_final (h : mayPass reply = true) :
    isTransient reply = true ∨ ∃ status body, reply = .response status body ∧ 500 ≤ status ∧
      status < 600 ∧ status ∉ retryableStatuses := by
  cases reply with
  | response status body =>
    have hstatus : status = 429 ∨ 500 ≤ status ∧ status < 600 := by simpa [mayPass] using h
    have hfailure : isSuccess status = false := isSuccess_of_failure (by omega) (by omega)
    by_cases hretried : status ∈ retryableStatuses
    · exact .inl (by simp [isTransient, hfailure, hretried])
    · have hother : status ≠ 429 := fun heq => hretried (heq ▸ by decide)
      exact .inr ⟨status, body, rfl, (hstatus.resolve_left hother).1,
        (hstatus.resolve_left hother).2, hretried⟩
  | lost reason => exact .inl rfl
  | broken fault => cases h

theorem isTransient_success (h : isSuccess status = true) :
    isTransient (.response status body) = false := by
  simp [isTransient, h]

/-- The first reply that is no transient failure is the last one, if attempts are left for those
before it. -/
theorem exec_fetch_of_transient (hcount : (count : Int) ≤ plan.maxRetries)
    (htransient : ∀ i < count, isTransient (before.upcoming i) = true)
    (hlast : isTransient (before.upcoming count) = false) :
    ((fetch plan).exec before).1 = settled plan (count + 1) (before.upcoming count) ∧
      ((fetch plan).exec before).2.sent =
        before.sent ++ List.replicate (count + 1) plan.post := by
  obtain ⟨retries, after, -, hasked, hends, hexec, hsent, -⟩ :=
    fetch_ends_with_last_reply plan before
  have heq : retries = count := by
    rcases Nat.lt_trichotomy retries count with hlt | heq | hlt
    · rcases hends with hall | hfinal
      · omega
      · exact absurd (htransient retries hlt) (by simp [hfinal])
    · exact heq
    · exact absurd (hasked count hlt) (by simp [hlast])
  subst heq
  rw [hexec]
  exact ⟨rfl, hsent⟩

/-- The first failure that may pass and is not transient is the last reply, and its status is the
error. -/
theorem exec_fetch_of_final (hcount : (count : Int) ≤ plan.maxRetries)
    (htransient : ∀ i < count, isTransient (before.upcoming i) = true)
    (hfailure : mayPass (before.upcoming count) = true)
    (hlast : isTransient (before.upcoming count) = false) :
    ∃ status body, before.upcoming count = .response status body ∧
      500 ≤ status ∧ status < 600 ∧ status ∉ retryableStatuses ∧
      ((fetch plan).exec before).1 = .error (.reported (.status plan.url status)) ∧
      ((fetch plan).exec before).2.sent =
        before.sent ++ List.replicate (count + 1) plan.post := by
  obtain ⟨hresult, hsent⟩ := exec_fetch_of_transient hcount htransient hlast
  rcases isTransient_or_final hfailure with hagain |
    ⟨status, body, hreply, hlow, hhigh, hother⟩
  · exact absurd hagain (by simp [hlast])
  · have hfailed : isSuccess status = false := isSuccess_of_failure (by omega) hhigh
    rw [hreply, settled, hfailed, if_neg Bool.false_ne_true] at hresult
    exact ⟨status, body, hreply, hlow, hhigh, hother, hresult, hsent⟩

/-- **A success behind failures that may pass.** Let a success follow on failures that may pass, as
many as attempts may be repeated or fewer. The server is asked once more than it has failed, and the
body of the success is the outcome, exactly if all of the failures are transient. The first one that
is not transient is a response of a failing server: it is the last reply, and its status is the
error. -/
theorem success_reached_iff (hcount : (count : Int) ≤ plan.maxRetries)
    (hfailures : ∀ i < count, mayPass (before.upcoming i) = true)
    (hreply : before.upcoming count = .response status body) (hsuccess : isSuccess status = true) :
    (((fetch plan).exec before).1 = .ok body ∧
        ((fetch plan).exec before).2.sent =
          before.sent ++ List.replicate (count + 1) plan.post ↔
      ∀ i < count, isTransient (before.upcoming i) = true) ∧
    ∀ i < count, (∀ j < i, isTransient (before.upcoming j) = true) →
      isTransient (before.upcoming i) = false →
      ∃ status body, before.upcoming i = .response status body ∧
        500 ≤ status ∧ status < 600 ∧ status ∉ retryableStatuses ∧
        ((fetch plan).exec before).1 = .error (.reported (.status plan.url status)) ∧
        ((fetch plan).exec before).2.sent =
          before.sent ++ List.replicate (i + 1) plan.post := by
  refine ⟨⟨?_, fun htransient => ?_⟩, fun i hi htransient =>
    exec_fetch_of_final (by omega) htransient (hfailures i hi)⟩
  · rintro ⟨hbody, -⟩
    -- The first failure that is not transient would be the outcome.
    by_contra hsome
    push Not at hsome
    obtain ⟨hfirst, hfinal⟩ := Nat.find_spec hsome
    have htransient : ∀ j < Nat.find hsome, isTransient (before.upcoming j) = true := by
      intro j hj
      by_contra hnot
      exact Nat.find_min hsome hj ⟨hj.trans hfirst, hnot⟩
    have hleft : (Nat.find hsome : Int) ≤ plan.maxRetries := by omega
    obtain ⟨failed, text, -, -, -, -, herror, -⟩ := exec_fetch_of_final hleft htransient
      (hfailures _ hfirst) (Bool.eq_false_iff.mpr hfinal)
    rw [hbody] at herror
    cases herror
  · have hlast : isTransient (before.upcoming count) = false := by
      rw [hreply, isTransient_success hsuccess]
    obtain ⟨hresult, hsent⟩ := exec_fetch_of_transient hcount htransient hlast
    rw [hreply, settled, if_pos hsuccess] at hresult
    exact ⟨hresult, hsent⟩

/-- A plan with two further attempts. -/
def patientPlan : Plan :=
  { url := "http://api", headers := [], timeoutSeconds := 30, maxRetries := 2
    retryBackoffSeconds := 0.5 }

/-- A host with a server that gives these replies. -/
def replyingHost (replies : List Reply) : State :=
  { files := ⟨[]⟩, working := [], input := [], replies, sent := [], pauses := [], notes := [] }

/-- Behind a connection that fails and a server that is not available, a success is reached. -/
theorem success_reached_unavailable :
    ((fetch patientPlan).exec
        (replyingHost [.lost "reset", .response 503 "", .response 200 "\x7b\x7d"])).1 =
      .ok "\x7b\x7d" := by
  have hfailures : ∀ i < 2, isTransient ((replyingHost
      [.lost "reset", .response 503 "", .response 200 "\x7b\x7d"]).upcoming i) = true := by
    decide
  have hcount : ((2 : Nat) : Int) ≤ patientPlan.maxRetries := by decide
  exact ((success_reached_iff hcount (by decide) rfl (by decide)).1.mpr hfailures).1

/-- A server that has not implemented what it is asked is asked no more, though attempts are left
and a success would follow: not every failure that may pass is asked again after. -/
theorem unimplemented_not_asked_again :
    mayPass (.response 501 "") = true ∧
      ((fetch patientPlan).exec
          (replyingHost [.response 501 "", .response 200 "\x7b\x7d"])).1 =
        .error (.reported (.status "http://api" 501)) ∧
      ((fetch patientPlan).exec
          (replyingHost [.response 501 "", .response 200 "\x7b\x7d"])).2.sent =
        [patientPlan.post] := by
  have hlast : isTransient ((replyingHost
      [.response 501 "", .response 200 "\x7b\x7d"]).upcoming 0) = false := by decide
  have hcount : ((0 : Nat) : Int) ≤ patientPlan.maxRetries := by decide
  obtain ⟨hresult, hsent⟩ := exec_fetch_of_transient hcount
    (fun i hi => absurd hi (Nat.not_lt_zero i)) hlast
  exact ⟨rfl, hresult, hsent⟩

end SchemaPages.Introspection
