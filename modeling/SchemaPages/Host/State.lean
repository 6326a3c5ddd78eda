import SchemaPages.Host.Action

/-!
# Carrying out an action on a host's state

The state of a host as a value: its files, what its standard input holds, how the servers will
reply, and what the program has sent, waited and noted so far. `Action.run` carries out an action
on such a state. Standard input is read once; a server that has nothing left to reply cannot be
reached.

Such a host does all it is asked for that its files allow. What can go wrong on a real one apart
from that is left out: standard input that cannot be read, a pause that the clock refuses, as it is
too long or no number at all, and an interruption from outside.
-/

namespace SchemaPages.Host

open Files (Location Tree)

/-- The state of a host. -/
structure State where
  files : Tree
  working : Location
  input : Text.Bytes
  replies : List Reply
  /-- The messages that have been sent, the first one first. -/
  sent : List Post
  /-- The seconds that have been waited, the first pause first. -/
  pauses : List Float
  /-- The notes, the first one first. -/
  notes : List Note

/-- What happens when no reply is left. -/
def noReply : Reply :=
  .lost "no scripted response"

namespace State

/-- The next reply of a server, and the state without it. -/
def reply (state : State) (message : Post) : Reply × State :=
  let state := { state with sent := state.sent ++ [message] }
  match state.replies with
  | [] => (noReply, state)
  | first :: rest => (first, { state with replies := rest })

/-- Answers a request. Standard input can always be read, and a pause is only noted down. -/
def answer {α : Type} (state : State) : Request α → α × State
  | .workingDirectory => (state.working, state)
  | .status path => (state.files.status state.working path, state)
  | .read path => (state.files.read state.working path, state)
  | .write path content =>
    match state.files.write state.working path content with
    | .ok files => (.ok (), { state with files })
    | .error cause => (.error cause, state)
  | .makeDirectories path =>
    let (files, outcome) := state.files.makeDirectories state.working path
    (outcome, { state with files })
  | .input => (state.input, { state with input := [] })
  | .send message => state.reply message
  | .pause seconds => ((), { state with pauses := state.pauses ++ [seconds] })
  | .note note => ((), { state with notes := state.notes ++ [note] })

end State

namespace Action

variable {α β : Type}

/-- Carries out an action. -/
def run : Action α → State → α × State
  | .done value, state => (value, state)
  | .ask request next, state =>
    let (answer, state) := state.answer request
    (next answer).run state

/-- Actions are carried out one after the other. -/
theorem run_bind (action : Action α) (f : α → Action β) (state : State) :
    (action.bind f).run state = (f (action.run state).1).run (action.run state).2 := by
  induction action generalizing state with
  | done value => rfl
  | ask request next ih => simp [bind, run, ih]

end Action

end SchemaPages.Host
