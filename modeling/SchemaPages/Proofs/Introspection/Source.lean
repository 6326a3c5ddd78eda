import SchemaPages.Introspection.Source
import SchemaPages.Proofs.Host.Alike
import SchemaPages.Proofs.Introspection.Protocol

/-!
# What loading a schema can do

A schema is loaded from one source, and everything that is asked of the host is about this source
(`asks_loadSchema`): only a server is sent a message, only a file is read, and the standard input is
taken only if it is the source. So no file is written (`AboutSource.leaves`), and nothing else of
the host matters (`AboutSource.respects`). When loading fails it says why: every failure of a file,
of the input, of the text and of the dialogue with a server is turned into an error, and only a
fault of the client goes through (`reports_loadSchema`).
-/

namespace SchemaPages.Introspection

open Files (Path)
open Host (Action Attempt Asked Failed State Leaves Post Reply Respects)

/-! ### Requests -/

/-- The requests about a source: a server is sent messages, with pauses between them, and a file and
the standard input are read. Definitions are not looked at. -/
inductive AboutSource : Source → Asked → Prop
  | note (source : Source) (note : Host.Note) : AboutSource source ⟨_, .note note⟩
  | send (message : Post) : AboutSource (.server message.url) ⟨_, .send message⟩
  | pause (url : String) (seconds : Float) : AboutSource (.server url) ⟨_, .pause seconds⟩
  | read (path : Path) : AboutSource (.file path) ⟨_, .read path⟩
  | input : AboutSource .input ⟨_, .input⟩

theorem asks_proceed {plan : Plan} {number left : Nat}
    (hrest : ∀ rest < left, (attempt plan rest (number + 1)).Asks (AboutSource (.server plan.url)))
    (verdict : Verdict) :
    (proceed plan number left verdict).Asks (AboutSource (.server plan.url)) := by
  cases verdict with
  | success body => rw [proceed]; exact Attempt.asks_pure body
  | failure error => rw [proceed]; exact Attempt.asks_throw _
  | breakdown fault => rw [proceed]; exact Attempt.asks_throw _
  | retry note error =>
    cases left with
    | zero => exact Attempt.asks_throw _
    | succ rest =>
      exact (Attempt.asks_note (.note _ _)).bind fun _ =>
        (Attempt.asks_request (.pause _ _)).bind fun _ => hrest rest (Nat.lt_succ_self rest)

theorem asks_attempt (plan : Plan) (left number : Nat) :
    (attempt plan left number).Asks (AboutSource (.server plan.url)) := by
  -- How an attempt proceeds is said for any smaller number of attempts, not for the next one only.
  induction left using Nat.strongRecOn generalizing number with
  | ind left ih =>
    rw [attempt_eq]
    exact (Attempt.asks_note (.note _ _)).bind fun _ =>
      (Attempt.asks_request (.send plan.post)).bind fun _ =>
        asks_proceed (fun rest hrest => ih rest hrest (number + 1)) _

theorem asks_readFile (path : Path) : (readFile path).Asks (AboutSource (.file path)) := by
  refine (Attempt.asks_request (.read path)).bind fun answer => ?_
  split
  · exact Attempt.asks_throw _
  · exact Attempt.asks_throw _
  · exact Attempt.asks_check _ _

theorem asks_readInput : readInput.Asks (AboutSource .input) :=
  (Attempt.asks_request .input).bind fun _ => Attempt.asks_check _ _

theorem asks_readText (settings : SourceSettings) :
    (readText settings).Asks (AboutSource settings.source) := by
  rw [readText]
  cases settings.source with
  | server url =>
    exact (Attempt.asks_note (.note _ _)).bind fun _ =>
      (asks_attempt (settings.plan url) _ 1).within
  | file path => exact (Attempt.asks_note (.note _ _)).bind fun _ => asks_readFile path
  | definitions path => exact Attempt.asks_throw _
  | input => exact (Attempt.asks_note (.note _ _)).bind fun _ => asks_readInput

/-- Loading a schema asks about its source only. -/
theorem asks_loadSchema (settings : SourceSettings) :
    (loadSchema settings).Asks (AboutSource settings.source) :=
  (asks_readText settings).within.bind fun _ => Attempt.asks_check _ _

/-! ### The host -/

variable {source : Source} {asked : Asked}

/-- Asking about a source leaves the files as they are, and the working directory. -/
theorem AboutSource.leaves (h : AboutSource source asked) :
    Leaves (fun state => (state.working, state.files)) asked := by
  intro state
  cases h with
  | send message =>
    simp only [State.answer, State.reply]
    cases state.replies <;> rfl
  | note | pause | read | input => rfl

/-- Whether two hosts look alike to those who only ask about a source. -/
structure Source.SeenAlike (source : Source) (state other : State) : Prop where
  replies : ∀ url, source = .server url → state.replies = other.replies
  content : ∀ path, source = .file path →
    state.files.read state.working path = other.files.read other.working path
  input : source = .input → state.input = other.input

/-- Hosts that look alike give the same answers and look alike again. -/
theorem AboutSource.respects (h : AboutSource source asked) : Respects source.SeenAlike asked := by
  intro state other hseen
  cases h with
  | note note => exact ⟨rfl, hseen.replies, hseen.content, hseen.input⟩
  | send message =>
    have hreplies := hseen.replies _ rfl
    simp only [State.answer, State.reply, ← hreplies]
    cases state.replies with
    | nil => exact ⟨rfl, fun _ _ => rfl, by rintro _ ⟨⟩, by rintro ⟨⟩⟩
    | cons reply rest => exact ⟨rfl, fun _ _ => rfl, by rintro _ ⟨⟩, by rintro ⟨⟩⟩
  | pause url seconds => exact ⟨rfl, hseen.replies, hseen.content, hseen.input⟩
  | read path => exact ⟨hseen.content path rfl, hseen⟩
  | input => exact ⟨hseen.input rfl, by rintro _ ⟨⟩, by rintro _ ⟨⟩, fun _ => rfl⟩

/-! ### Failures -/

variable {before : State}

theorem reports_fetch (plan : Plan) (h : ∀ fault, Reply.broken fault ∉ before.replies) :
    (fetch plan).Reports before := by
  intro error after hexec
  obtain ⟨retries, -, -, -, hresult, -⟩ := exists_last_reply plan plan.retries 1 before
  rw [fetch] at hexec
  rw [hexec] at hresult
  rcases hreply : before.upcoming retries with ⟨status, body⟩ | reason | fault <;>
    rw [hreply, settled] at hresult
  · split at hresult <;> cases hresult
    trivial
  · cases hresult
    trivial
  · exact absurd hreply (State.upcoming_ne_broken (h fault) retries)

theorem reports_readFile (path : Path) (before : State) : (readFile path).Reports before := by
  refine (Attempt.failsWith_of _ before).bind fun answer after _ => ?_
  split
  · exact Attempt.failsWith_throw trivial after
  · exact Attempt.failsWith_throw trivial after
  · exact Attempt.failsWith_check (fun _ _ => trivial) after

theorem reports_readInput (before : State) : readInput.Reports before :=
  (Attempt.failsWith_of _ before).bind fun _ after _ =>
    Attempt.failsWith_check (fun _ _ => trivial) after

theorem reports_readText (settings : SourceSettings)
    (h : ∀ fault, Reply.broken fault ∉ before.replies) : (readText settings).Reports before := by
  rw [readText]
  cases settings.source with
  | server url =>
    refine (Attempt.failsWith_of _ before).bind fun _ after hnoted => ?_
    have hreplies : after.replies = before.replies := by
      cases hnoted
      rfl
    exact (reports_fetch (settings.plan url) (hreplies ▸ h)).within
  | file path =>
    exact (Attempt.failsWith_of _ before).bind fun _ after _ => reports_readFile path after
  | definitions path => exact Attempt.failsWith_throw trivial before
  | input => exact (Attempt.failsWith_of _ before).bind fun _ after _ => reports_readInput after

/-- A schema that cannot be loaded leads to an error unless the client breaks. -/
theorem reports_loadSchema (settings : SourceSettings)
    (h : ∀ fault, Reply.broken fault ∉ before.replies) : (loadSchema settings).Reports before :=
  (reports_readText settings h).within.bind fun _ after _ =>
    Attempt.failsWith_check (fun _ _ => trivial) after

end SchemaPages.Introspection
