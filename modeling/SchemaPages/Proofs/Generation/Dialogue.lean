import SchemaPages.Proofs.Generation.Consulted

/-!
# What a run sends

Only a server is sent messages, and only between messages there are pauses. What a run asks about
its configuration and its output is neither (`AboutConfiguration.exchange?_eq_none`,
`AboutOutput.exchange?_eq_none`), so the messages and pauses of a run are those of its source: none
unless that is a server (`exchanges_run_of_no_server`), and else the dialogue with it, which is as
long as the replies make it (`exchanges_run_of_server`).
-/

namespace SchemaPages

open Host (Asked Attempt Failed State exchange?)

variable {before : State} {asked : Asked}

namespace Introspection

variable {source : Source} {settings : SourceSettings} {url : String}

/-- Only a server is sent messages. -/
theorem AboutSource.exchange?_eq_none (h : AboutSource source asked)
    (hsource : ∀ url, source ≠ .server url) : exchange? asked = none := by
  cases h with
  | send message => exact absurd rfl (hsource message.url)
  | pause url seconds => exact absurd rfl (hsource url)
  | note | read | input => rfl

/-- What is made of the text of an answer asks nothing. -/
theorem asked_loadSchema (settings : SourceSettings) (before : State) :
    (loadSchema settings).asked before = (readText settings).asked before := by
  have hread : ((readText settings).within LoadError.source).asked before =
      (readText settings).asked before := Attempt.asked_adapt _ _ before
  rw [loadSchema, Attempt.asked_bind, hread]
  rcases ((readText settings).within LoadError.source).exec before with ⟨_ | text, after⟩
  · exact List.append_nil _
  · simp only [Attempt.asked_check, List.append_nil]

theorem exchanges_loadSchema_of_no_server (h : ∀ url, settings.source ≠ .server url) :
    (loadSchema settings).exchanges before = [] := by
  rw [Attempt.exchanges, List.filterMap_eq_nil_iff]
  exact fun asked hasked => (asks_loadSchema settings before asked hasked).exchange?_eq_none h

/-- The dialogue with a server is the whole exchange. -/
theorem exchanges_loadSchema_of_server (before : State) (h : settings.source = .server url) :
    ∃ noted : State, noted.replies = before.replies ∧
      (loadSchema settings).exchanges before = (fetch (settings.plan url)).exchanges noted := by
  have hfetch : ∀ state, ((fetch (settings.plan url)).within SourceError.fetch).asked state =
      (fetch (settings.plan url)).asked state := Attempt.asked_adapt _ _
  refine ⟨before.noted ⟨.info, .source, "Introspecting " ++ url⟩, rfl, ?_⟩
  rw [Attempt.exchanges, asked_loadSchema, readText, h]
  dsimp only
  rw [sourceNote, Attempt.asked_note_bind, hfetch]
  rfl

end Introspection

namespace Generation

open Files (Path)
open Introspection (Source dialogue isTransient)

variable {request : Request} {plan : Plan} {configPath : Option String} {outDir : Option Path}
  {url : String}

theorem AboutConfiguration.exchange?_eq_none (h : AboutConfiguration configPath asked) :
    exchange? asked = none := by
  obtain ⟨text, -, rfl | rfl | rfl⟩ := h <;> rfl

theorem AboutOutput.exchange?_eq_none (h : AboutOutput outDir asked) : exchange? asked = none := by
  cases h <;> rfl

/-- The messages and pauses of a run are those of its source. -/
theorem exchanges_run (h : (readPlan request).exec before = (.ok plan, before)) :
    (run request).exchanges before = (Introspection.loadSchema plan.source).exchanges before := by
  obtain ⟨publishing, hasked, houtput⟩ := asked_run h
  have hsettling : ((readPlan request).asked before).filterMap exchange? = [] :=
    List.filterMap_eq_nil_iff.mpr fun asked hasked =>
      (asks_readPlan request before asked hasked).exchange?_eq_none
  have hpublishing : publishing.filterMap exchange? = [] :=
    List.filterMap_eq_nil_iff.mpr fun asked hasked => (houtput asked hasked).exchange?_eq_none
  rw [Attempt.exchanges, hasked, List.filterMap_append, List.filterMap_append, hsettling,
    hpublishing, List.nil_append, List.append_nil]
  rfl

/-- A run whose settings cannot be settled sends nothing, nor does one without a server. -/
theorem exchanges_run_of_no_server
    (h : ∀ plan, (readPlan request).exec before = (.ok plan, before) →
      ∀ url, plan.source.source ≠ .server url) : (run request).exchanges before = [] := by
  rcases run_loads_wellFormed request before with
    ⟨error, -, -, hasked⟩ | ⟨configuration, plan, -, hplan, -⟩
  · rw [Attempt.exchanges, hasked, List.filterMap_eq_nil_iff]
    exact fun asked hasked => (asks_readPlan request before asked hasked).exchange?_eq_none
  · rw [exchanges_run hplan]
    exact Introspection.exchanges_loadSchema_of_no_server (h plan hplan)

/-- A run whose source is a server sends it the message until a reply settles the matter. -/
theorem exchanges_run_of_server (hplan : (readPlan request).exec before = (.ok plan, before))
    (hsource : plan.source.source = .server url) :
    ∃ retries ≤ plan.source.maxRetries.toNat,
      (∀ i < retries, isTransient (before.upcoming i) = true) ∧
      (retries = plan.source.maxRetries.toNat ∨
        isTransient (before.upcoming retries) = false) ∧
      (run request).exchanges before = dialogue (plan.source.plan url) 1 retries := by
  obtain ⟨noted, hreplies, hexchanges⟩ :=
    Introspection.exchanges_loadSchema_of_server before hsource
  obtain ⟨retries, hle, htransient, hlast, -, hdialogue⟩ :=
    Introspection.exists_last_reply (plan.source.plan url) (plan.source.plan url).retries 1 noted
  have hupcoming : ∀ i, noted.upcoming i = before.upcoming i := fun i => by
    rw [State.upcoming, State.upcoming, hreplies]
  simp only [hupcoming] at htransient hlast
  exact ⟨retries, hle, htransient, hlast, by rw [exchanges_run hplan, hexchanges]; exact hdialogue⟩

end Generation

end SchemaPages
