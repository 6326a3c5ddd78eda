import SchemaPages.Host.Failure
import SchemaPages.Introspection.Header
import SchemaPages.Introspection.Query
import SchemaPages.Pairs

/-!
# Asking a server

`fetch` sends the introspection query until a reply settles the matter: a response that is a
success, or one that it does not help to ask again for. A failed connection and some statuses are
tried again after a pause that grows with each attempt, as long as attempts are left.
-/

namespace SchemaPages.Introspection

open Host (Post Reply Action Attempt Failed Level Topic)

/-- How a server is asked. -/
structure Plan where
  url : String
  headers : List Header
  timeoutSeconds : Int
  /-- How often a failed attempt is repeated; a negative number means never. -/
  maxRetries : Int
  /-- The pause after the first attempt; later ones are multiples of it. -/
  retryBackoffSeconds : Float

/-- Why a server gave no answer. -/
inductive FetchError where
  /-- The connection failed in the last attempt. -/
  | unreachable (url : String) (attempts : Nat) (reason : String)
  /-- The last response was no success. -/
  | status (url : String) (code : Int)
  deriving DecidableEq, Repr

/-- The text of an error. -/
def FetchError.message : FetchError → String
  | .unreachable url attempts reason =>
    "Introspection request to " ++ url ++ " failed after " ++ toString attempts ++ " attempts: " ++
      reason
  | .status url code =>
    "Introspection request to " ++ url ++ " returned status " ++ toString code

/-- The statuses after which it may help to ask again. -/
def retryableStatuses : List Int :=
  [429, 500, 502, 503, 504]

/-- Whether a status is a success: anything but the errors of client and server. -/
def isSuccess (status : Int) : Bool :=
  !(400 ≤ status && status < 600)

/-- The header that is sent unless another value is given for its name. -/
def contentType : Header :=
  ("Content-Type", "application/graphql")

namespace Plan

/-- The headers that are sent: of headers with the same name the last one counts. -/
def sentHeaders (plan : Plan) : List Header :=
  Pairs.insertAll plan.headers [contentType]

/-- The message that is sent in each attempt. -/
def post (plan : Plan) : Post :=
  { url := plan.url, headers := plan.sentHeaders, timeout := plan.timeoutSeconds, body := query }

/-- How many attempts are made after the first one. -/
def retries (plan : Plan) : Nat :=
  plan.maxRetries.toNat

/-- The number of attempts, at least one. -/
def attempts (plan : Plan) : Nat :=
  plan.retries + 1

/-- The pause after an attempt. -/
def pauseAfter (plan : Plan) (attempt : Nat) : Float :=
  plan.retryBackoffSeconds * Float.ofNat attempt

end Plan

/-- What a reply means for the dialogue with a server. -/
inductive Verdict where
  | success (body : String)
  /-- It may help to ask again. The note says why, and the error stands if no attempt is left. -/
  | retry (note : String) (error : FetchError)
  | failure (error : FetchError)
  | breakdown (fault : Host.ClientFault)

/-- What the reply to an attempt means. -/
def verdict (plan : Plan) (attempt : Nat) : Reply → Verdict
  | .response status body =>
    if isSuccess status then .success body
    else
      let error := FetchError.status plan.url status
      if retryableStatuses.contains status then .retry (error.message ++ "; retrying") error
      else .failure error
  | .lost reason =>
    .retry ("Introspection request to " ++ plan.url ++ " failed: " ++ reason ++ "; retrying")
      (.unreachable plan.url attempt reason)
  | .broken fault => .breakdown fault

/-- Makes an attempt, and those that follow from it while `left` more are allowed. -/
def attempt (plan : Plan) (left number : Nat) : Attempt (Failed FetchError) String := do
  Attempt.of (Action.note .debug .transport
    ("POST " ++ plan.url ++ " (attempt " ++ toString number ++ "/" ++ toString plan.attempts ++
      ")"))
  match verdict plan number (← Attempt.request (.send plan.post)) with
  | .success body => return body
  | .failure error => Attempt.report error
  | .breakdown fault => Attempt.break (.client fault)
  | .retry note error =>
    match left with
    | 0 => Attempt.report error
    | left + 1 =>
      Attempt.of (Action.note .warning .transport note)
      Attempt.request (.pause (plan.pauseAfter number))
      attempt plan left (number + 1)

/-- The body of a server's answer to the introspection query. -/
def fetch (plan : Plan) : Attempt (Failed FetchError) String :=
  attempt plan plan.retries 1

end SchemaPages.Introspection
