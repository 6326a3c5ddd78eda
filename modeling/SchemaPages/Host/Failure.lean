import SchemaPages.Host.Action

/-!
# Failures

An operation fails either in a way that it reports as its own error, or because something broke
that it does not deal with: a file that cannot be read where that is not provided for, bytes that
are no text, a number that does not exist, a name that no path can have, a document that leads back
to itself, or a fault of the client.
-/

namespace SchemaPages.Host

/-- A failure that nobody deals with. -/
inductive Breakdown where
  | files (failure : Files.Failure)
  | notUtf8 (fault : Text.Utf8.Fault)
  | noValue (message : String)
  | tooLarge (message : String)
  /-- A path holds the character NUL. -/
  | nul
  /-- An evaluation never comes to an end. -/
  | endless
  | client (fault : ClientFault)
  deriving DecidableEq, Repr

/-- A failure: an error that is reported, or a breakdown. -/
inductive Failed (ε : Type) where
  | reported (error : ε)
  | broken (cause : Breakdown)
  deriving DecidableEq, Repr

/-- Reports an error in another form. -/
def Failed.map {ε δ : Type} (f : ε → δ) : Failed ε → Failed δ
  | .reported error => .reported (f error)
  | .broken cause => .broken cause

/-- The message of a fault of the client. -/
def ClientFault.message : ClientFault → String
  | .system message => message
  | .value message => message

/-- The text of a breakdown. -/
def Breakdown.message : Breakdown → String
  | .files failure => failure.message
  | .notUtf8 fault => fault.message
  | .noValue message => message
  | .tooLarge message => message
  | .nul => "embedded null byte"
  | .endless => "maximum recursion depth exceeded"
  | .client fault => fault.message

/-- Fails with an error of its own. -/
def Attempt.report {ε α : Type} (error : ε) : Attempt (Failed ε) α :=
  throw (.reported error)

/-- Fails with a breakdown. -/
def Attempt.break {ε α : Type} (cause : Breakdown) : Attempt (Failed ε) α :=
  throw (.broken cause)

/-- Reports the errors of another operation in another form. -/
def Attempt.within {ε δ α : Type} (f : ε → δ) (attempt : Attempt (Failed ε) α) :
    Attempt (Failed δ) α :=
  attempt.adapt (Failed.map f)

end SchemaPages.Host
