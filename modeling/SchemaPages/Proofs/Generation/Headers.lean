import SchemaPages.Proofs.Generation.Dialogue
import SchemaPages.Proofs.Pairs
import SchemaPages.Proofs.Settings.Loaded

/-!
# The headers of a run

The headers of the configuration come first and those of the request behind them, with names that
may come again in each of the two lists and in both. What is sent is a map: it starts with the type
of the content, the other names follow where they come first (`map_fst_sentHeaders`), and each has
the value that comes last (`lookup_sentHeaders`). So the request goes before the configuration, in
every message of the run (`run_sends_merged_headers`).
-/

namespace SchemaPages

open Introspection (Header)

namespace Introspection

variable (plan : Plan)

/-- The type of the content comes first, then the other names where they come first. -/
theorem map_fst_sentHeaders :
    plan.sentHeaders.map Prod.fst =
      "Content-Type" ::
        ((plan.headers.map Prod.fst).filter (· ≠ "Content-Type")).eraseDups := by
  have hothers : (plan.headers.map Prod.fst).removeAll ["Content-Type"] =
      (plan.headers.map Prod.fst).filter (· ≠ "Content-Type") := by
    rw [List.removeAll]
    congr 1
    funext name
    simp
  rw [Plan.sentHeaders, Pairs.map_fst_insertAll, ← hothers]
  rfl

/-- The last value of a name counts, and the type of the content is known. -/
theorem lookup_sentHeaders (name : String) :
    plan.sentHeaders.lookup name = (plan.headers.reverse.lookup name).or
      (if name = "Content-Type" then some "application/graphql" else none) := by
  rw [Plan.sentHeaders, Pairs.lookup_insertAll, contentType]
  congr 1
  by_cases h : name = "Content-Type"
  · rw [h, List.lookup_cons_self, if_pos rfl]
  · rw [List.lookup_cons, beq_false_of_ne h, List.lookup_nil, if_neg h]

end Introspection

namespace Generation

open Files (Path)
open Host (Attempt Exchange Reply State)

variable {request : Request} {before after : State} {configuration : Settings.Configuration}

/-- Whether a run has these headers from its configuration: none without a file, and else those that
the section for the source gives. -/
inductive ConfiguresHeaders (before : State) : Option String → List Header → Prop
  | default : ConfiguresHeaders before none []
  | file {pathText text : String} {value : Yaml.Value} {headers : List Header}
      (hholds : Settings.Holds before (Path.ofString pathText) text)
      (hload : Yaml.load Settings.settingDepth text = .ok value)
      (h : Settings.GivesHeaders
        (Settings.setting? "headers" (Settings.sectionIn "source" value)) headers) :
      ConfiguresHeaders before (some pathText) headers

theorem configuresHeaders_of_exec_loadConfiguration {configPath : Option String}
    (h : (loadConfiguration configPath).exec before = (.ok configuration, after)) :
    ConfiguresHeaders before configPath configuration.source.headers := by
  cases configPath with
  | none =>
    cases h
    exact .default
  | some pathText =>
    obtain ⟨text, value, hholds, hload, hheaders, -⟩ :=
      Settings.exists_of_exec_load (Attempt.exec_adapt_eq_ok_iff.mp h)
    exact .file hholds hload hheaders

/-- **The headers of a run.** Either a run sends nothing, as its settings cannot be settled or it
has no server, or it sends messages that all have the same headers, from those of the configuration
and those of the request. The names are the type of the content and then the other names of the two
lists, in the order in which they come first. The value of a name is its last one in the request,
and else its last one in the configuration, and the type of the content has a value in any case. -/
theorem run_sends_merged_headers (request : Request) (before : State) :
    (((run request).exec before).2.sent = before.sent ∧
        ∀ plan, (readPlan request).exec before = (.ok plan, before) →
          ∀ url, plan.source.source ≠ .server url) ∨
      ∃ messages configured requested, messages ≠ [] ∧
        ((run request).exec before).2.sent = before.sent ++ messages ∧
        ConfiguresHeaders before request.configPath configured ∧
        request.headers.mapM Header.parse = .ok requested ∧
        ∀ message ∈ messages,
          message.headers.map Prod.fst = "Content-Type" ::
            (((configured ++ requested).map Prod.fst).filter (· ≠ "Content-Type")).eraseDups ∧
          ∀ name, message.headers.lookup name =
            ((requested.reverse.lookup name).or (configured.reverse.lookup name)).or
              (if name = "Content-Type" then some "application/graphql" else none) := by
  have hsent := Attempt.sent_exec (run request) before
  by_cases hserver : ∃ plan url, (readPlan request).exec before = (.ok plan, before) ∧
      plan.source.source = .server url
  · obtain ⟨plan, url, hplan, hsource⟩ := hserver
    obtain ⟨retries, -, -, -, hdialogue⟩ := exchanges_run_of_server hplan hsource
    obtain ⟨configuration, hload, hmerge⟩ := exists_of_exec_readPlan hplan
    obtain ⟨requested, hparse, hheaders⟩ := (combines_of_mergeSource hmerge).headers
    rw [hdialogue, Introspection.messages_dialogue] at hsent
    refine .inr ⟨_, configuration.source.headers, requested, by simp, hsent,
      configuresHeaders_of_exec_loadConfiguration hload, hparse, fun message hmessage => ?_⟩
    obtain rfl := List.eq_of_mem_replicate hmessage
    have hmerged : (plan.source.plan url).headers = configuration.source.headers ++ requested :=
      hheaders
    refine ⟨?_, fun name => ?_⟩
    · rw [← hmerged]
      exact Introspection.map_fst_sentHeaders (plan.source.plan url)
    · refine (Introspection.lookup_sentHeaders (plan.source.plan url) name).trans ?_
      rw [hmerged, List.reverse_append, List.lookup_append]
  · have hnone : ∀ plan, (readPlan request).exec before = (.ok plan, before) →
        ∀ url, plan.source.source ≠ .server url :=
      fun plan hplan url hsource => hserver ⟨plan, url, hplan, hsource⟩
    rw [exchanges_run_of_no_server hnone] at hsent
    exact .inl ⟨hsent.trans (List.append_nil _), hnone⟩

/-- A host with headers in its configuration, and with a server that is not available at first. -/
def headerHost : State :=
  { files := ⟨[(["pets.yml"], .file (Text.Utf8.encode
      "source:\n  url: http://api\n  headers: \x7bToken: a, ' Token': b, Accept: all\x7d\n"))]⟩
    working := [], input := [], replies := [.response 503 "", .response 200 ""]
    sent := [], pauses := [], notes := [] }

example :
    ((run { configPath := some "pets.yml", headers := ["Host: h", "Token: c", "Token: d"] }).exec
        headerHost).2.sent.map Host.Post.headers =
      List.replicate 2 [("Content-Type", "application/graphql"), ("Token", "d"), ("Accept", "all"),
        ("Host", "h")] := by
  decide +kernel

end Generation

end SchemaPages
