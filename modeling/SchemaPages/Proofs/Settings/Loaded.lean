import SchemaPages.Proofs.Settings.Breakdown

/-!
# What a loaded configuration comes from

A configuration that is loaded comes from a file with a text, and this text from a document with a
value; its settings are those of the sections of this value (`exists_of_exec_load`). What the
headers come from can be said without the program: from a mapping of texts, from a list of texts, or
from nothing (`GivesHeaders`), and these are all the values of the setting that are accepted
(`headersSetting_eq_ok_iff`).
-/

namespace SchemaPages.Settings

open Files (Location Path)
open Host (Attempt State)
open Introspection (Header SourceSettings)
open Yaml (Value Scalar)

variable {working : Location} {base path : Path} {content : Section} {name : String} {value : Value}
  {headers : List Header} {settings : SourceSettings} {configuration : Configuration}
  {before after : State}

/-! ### Headers -/

/-- The entries of a mapping of texts. -/
def textEntries (entries : List (String × String)) : Section :=
  entries.map fun (name, value) => (.text name, .scalar (.text value))

/-- The texts of a list. -/
def textItems (texts : List String) : List Value :=
  texts.map fun text => .scalar (.text text)

/-- Whether a value of the setting gives these headers: the entries of a mapping of texts, without
the blanks around names and values, or what the texts of a list define. The setting may be left out,
and bytes count as a list of numbers, so there must not be any. -/
inductive GivesHeaders : Option Value → List Header → Prop
  | absent : GivesHeaders none []
  | mapping {entries : List (String × String)} (h : ∀ entry ∈ entries, Text.trim entry.1 ≠ "") :
      GivesHeaders (some (.mapping (textEntries entries)))
        (entries.map fun (name, value) => (Text.trim name, Text.trim value))
  | list {texts : List String} {headers : List Header} (h : texts.mapM Header.parse = .ok headers) :
      GivesHeaders (some (.sequence (textItems texts))) headers
  | bytes : GivesHeaders (some (.scalar (.bytes []))) []

theorem exists_of_headersOfEntries (h : headersOfEntries content = .ok headers) :
    ∃ entries, content = textEntries entries ∧ (∀ entry ∈ entries, Text.trim entry.1 ≠ "") ∧
      headers = entries.map fun (name, value) => (Text.trim name, Text.trim value) := by
  fun_induction headersOfEntries content generalizing headers with
  | case1 =>
    cases h
    exact ⟨[], rfl, fun _ hnone => (List.not_mem_nil hnone).elim, rfl⟩
  | case2 | case4 | case5 => cases h
  | case3 rest name trimmedName hname value ih =>
    obtain ⟨others, hrest, rfl⟩ := map_eq_ok_iff.mp h
    obtain ⟨rfl, hne⟩ := trimmed?_eq_some_iff.mp hname
    obtain ⟨entries, rfl, hnames, rfl⟩ := ih hrest
    exact ⟨(name, value) :: entries, rfl, List.forall_mem_cons.mpr ⟨hne, hnames⟩, rfl⟩

theorem headersOfEntries_textEntries {entries : List (String × String)}
    (h : ∀ entry ∈ entries, Text.trim entry.1 ≠ "") :
    headersOfEntries (textEntries entries) =
      .ok (entries.map fun (name, value) => (Text.trim name, Text.trim value)) := by
  induction entries with
  | nil => rfl
  | cons entry rest ih =>
    obtain ⟨name, value⟩ := entry
    obtain ⟨hname, hrest⟩ := List.forall_mem_cons.mp h
    rw [textEntries, List.map_cons, headersOfEntries, trimmed?_eq_some_iff.mpr ⟨rfl, hname⟩]
    exact congrArg (_ <$> ·) (ih hrest)

theorem exists_of_headersOfItems {items : List Value} (h : headersOfItems items = .ok headers) :
    ∃ texts, items = textItems texts ∧ texts.mapM Header.parse = .ok headers := by
  have htexts : ∃ texts, items = textItems texts := by
    fun_induction headersOfItems items generalizing headers with
    | case1 => exact ⟨[], rfl⟩
    | case2 | case4 => cases h
    | case3 text rest header hparse ih =>
      obtain ⟨others, hrest, rfl⟩ := map_eq_ok_iff.mp h
      obtain ⟨texts, rfl⟩ := ih hrest
      exact ⟨text :: texts, rfl⟩
  obtain ⟨texts, rfl⟩ := htexts
  rw [textItems, headersOfItems_texts] at h
  rcases hparse : texts.mapM Header.parse with cause | parsed <;> rw [hparse] at h <;> cases h
  exact ⟨texts, rfl, hparse⟩

/-- The headers of a section are accepted exactly if they are given in one of these ways. -/
theorem headersSetting_eq_ok_iff :
    headersSetting content = .ok headers ↔ GivesHeaders (setting? "headers" content) headers := by
  rw [headersSetting]
  generalize setting? "headers" content = found
  constructor
  · intro h
    split at h
    · cases h
      exact .absent
    · obtain ⟨entries, rfl, hnames, rfl⟩ := exists_of_headersOfEntries h
      exact .mapping hnames
    · obtain ⟨texts, rfl, hparse⟩ := exists_of_headersOfItems h
      exact .list hparse
    · next bytes =>
      split at h
      next hempty =>
        cases h
        rw [List.isEmpty_iff.mp hempty]
        exact .bytes
      · cases h
    · cases h
  · intro h
    cases h with
    | absent => rfl
    | mapping hnames => exact headersOfEntries_textEntries hnames
    | list hparse => exact (headersOfItems_texts _).trans (by rw [hparse]; rfl)
    | bytes => rfl

/-! ### Files -/

/-- A section of a value; empty if it is left out. -/
def sectionIn (name : String) (value : Value) : Section :=
  ((value.entries?.bind (setting? name)).bind Value.entries?).getD []

theorem eq_of_sectionOf {entries : Section} (h : sectionOf name content = .ok entries) :
    entries = ((setting? name content).bind Value.entries?).getD [] := by
  rw [sectionOf] at h
  split at h
  · next hfound =>
    cases h
    rw [hfound]
    rfl
  · next hfound =>
    cases h
    rw [hfound]
    rfl
  · cases h

/-- The headers and the pause of a source come from its section. -/
theorem exists_of_sourceOf (h : sourceOf working base content = .ok settings) :
    ∃ source, sectionOf "source" content = .ok source ∧
      headersSetting source = .ok settings.headers ∧
      numberSetting "source" backoffSetting 0.5 source = .ok settings.retryBackoffSeconds := by
  simp only [sourceOf, bind_eq_ok_iff] at h
  obtain ⟨source, hsource, url, -, json, -, schema, -, h⟩ := h
  split at h
  · cases h
  · simp only [bind_eq_ok_iff] at h
    obtain ⟨headers, hheaders, jsonPath, -, schemaPath, -, seconds, -, retries, -, backoff,
      hbackoff, h⟩ := h
    cases h
    exact ⟨source, hsource, hheaders, hbackoff⟩

theorem exists_of_ofValue (h : Configuration.ofValue working path value = .ok configuration) :
    headersSetting (sectionIn "source" value) = .ok configuration.source.headers ∧
      numberSetting "source" backoffSetting 0.5 (sectionIn "source" value) =
        .ok configuration.source.retryBackoffSeconds := by
  have hcontent : ∃ content, sourceOf working path.parent content = .ok configuration.source ∧
      ((setting? "source" content).bind Value.entries?).getD [] = sectionIn "source" value := by
    rw [Configuration.ofValue.eq_def] at h
    split at h <;> simp only [bind_eq_ok_iff] at h <;>
      obtain ⟨content, hvalue, source, hsource, output, -, h⟩ := h <;> cases h <;> cases hvalue <;>
      exact ⟨_, hsource, rfl⟩
  obtain ⟨content, hsource, hsection⟩ := hcontent
  obtain ⟨source, hfound, hheaders, hbackoff⟩ := exists_of_sourceOf hsource
  rw [← hsection, ← eq_of_sectionOf hfound]
  exact ⟨hheaders, hbackoff⟩

/-- A configuration that is loaded comes from a file with the text of a document, and its headers
and its pause are those of the section for the source. -/
theorem exists_of_exec_load {pathText : String}
    (h : (Configuration.load pathText).exec before = (.ok configuration, after)) :
    ∃ text value, Holds before (Path.ofString pathText) text ∧
      Yaml.load settingDepth text = .ok value ∧
      GivesHeaders (setting? "headers" (sectionIn "source" value)) configuration.source.headers ∧
      numberSetting "source" backoffSetting 0.5 (sectionIn "source" value) =
        .ok configuration.source.retryBackoffSeconds := by
  have hfile : before.files.status before.working (Path.ofString pathText) = .ok .file := by
    by_contra hother
    rw [exec_load_of_status hother] at h
    split at h <;> cases h
  obtain ⟨bytes, hread⟩ := Files.Tree.exists_read_of_status hfile
  rw [exec_load_of_read hread] at h
  rcases htext : Introspection.textOfBytes bytes with fault | text <;> rw [htext] at h
  · cases h
  · have hvalue : Configuration.ofText before.working (Path.ofString pathText) text =
        .ok configuration := congrArg Prod.fst h
    rw [Configuration.ofText, bind_eq_ok_iff] at hvalue
    obtain ⟨value, hload, hvalue⟩ := hvalue
    obtain ⟨hheaders, hbackoff⟩ := exists_of_ofValue hvalue
    refine ⟨text, value, ⟨bytes, hread, htext⟩, ?_, headersSetting_eq_ok_iff.mp hheaders, hbackoff⟩
    rcases hparse : Yaml.load settingDepth text with fault | other <;> rw [hparse] at hload <;>
      cases hload
    rfl

end SchemaPages.Settings
