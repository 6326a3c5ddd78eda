import SchemaPages.Files.Tree

/-!
# Actions

A program talks to its host: it reads and writes files, sends requests to a server, waits, reads
its standard input and notes what it does. An `Action` is such a dialogue as a tree: it either is
done, or asks something and goes on with the answer. Nothing is said about the host, so an action
can be carried out by a real one or on the state of a host as a value.
-/

namespace SchemaPages.Host

open Files (Path Location Failure)

/-- A message to a server. -/
structure Post where
  url : String
  /-- The headers; no two of them have the same name. -/
  headers : List (String × String)
  /-- How many seconds to wait for the answer. -/
  timeout : Int
  body : String
  deriving DecidableEq, Repr

/-- What goes wrong in a client before a server is reached, other than a failed connection. -/
inductive ClientFault where
  | system (message : String)
  | value (message : String)
  deriving DecidableEq, Repr

/-- What comes of a message to a server. -/
inductive Reply where
  | response (status : Int) (body : String)
  /-- The connection failed. -/
  | lost (message : String)
  | broken (fault : ClientFault)
  deriving DecidableEq, Repr

/-- How important a note is. -/
inductive Level where
  | debug
  | info
  | warning
  deriving DecidableEq, Repr

/-- The part of the program that a note comes from. -/
inductive Topic where
  | transport
  | source
  | generation
  | output
  deriving DecidableEq, Repr

/-- A note about what the program does. -/
structure Note where
  level : Level
  topic : Topic
  message : String
  deriving DecidableEq, Repr

/-- What a program may ask of its host, by the type of the answer. -/
inductive Request : Type → Type where
  | workingDirectory : Request Location
  | status (path : Path) : Request (Except Files.Cause Files.Kind)
  | read (path : Path) : Request (Except Files.Cause Text.Bytes)
  | write (path : Path) (content : Text.Bytes) : Request (Except Files.Cause Unit)
  | makeDirectories (path : Path) : Request (Except Failure Unit)
  | input : Request Text.Bytes
  | send (message : Post) : Request Reply
  | pause (seconds : Float) : Request Unit
  | note (note : Note) : Request Unit

/-- A dialogue with the host that ends with a value. -/
inductive Action (α : Type) : Type 1 where
  | done (value : α)
  | ask {β : Type} (request : Request β) (next : β → Action α)

namespace Action

variable {α β γ : Type}

/-- Goes on with another action after the end of this one. -/
def bind : Action α → (α → Action β) → Action β
  | .done value, f => f value
  | .ask request next, f => .ask request fun answer => (next answer).bind f

instance : Monad Action where
  pure := .done
  bind := bind

/-- Asks one thing. -/
def request (request : Request α) : Action α :=
  .ask request .done

theorem bind_done (action : Action α) : action.bind .done = action := by
  induction action with
  | done value => rfl
  | ask request next ih => simp [bind, ih]

theorem bind_assoc (action : Action α) (f : α → Action β) (g : β → Action γ) :
    (action.bind f).bind g = action.bind fun value => (f value).bind g := by
  induction action with
  | done value => rfl
  | ask request next ih => simp [bind, ih]

/-- Notes something. -/
def note (level : Level) (topic : Topic) (message : String) : Action Unit :=
  request (.note ⟨level, topic, message⟩)

end Action

/-- An action that may fail. -/
abbrev Attempt (ε : Type) := ExceptT ε Action

/-- Makes an action one that does not fail. -/
def Attempt.of {ε α : Type} (action : Action α) : Attempt ε α :=
  ExceptT.lift action

/-- Asks one thing. -/
def Attempt.request {ε α : Type} (request : Request α) : Attempt ε α :=
  .of (.request request)

/-- Fails with an error that has another form, or goes on. -/
def Attempt.check {ε δ α : Type} (outcome : Except δ α) (error : δ → ε) : Attempt ε α :=
  match outcome with
  | .ok value => pure value
  | .error cause => throw (error cause)

end SchemaPages.Host
