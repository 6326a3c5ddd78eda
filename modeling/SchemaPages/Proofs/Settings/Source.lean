import SchemaPages.Proofs.Host.Attempt
import SchemaPages.Proofs.Text.Trim
import SchemaPages.Settings.Reader

/-!
# What the settings of a source hold

Settings are well-formed if they name at most one source, the address of a server is not empty, the
time to wait is positive, the number of further attempts is not negative, and every header has a
name and no blanks around its name and its value. The defaults are well-formed
(`wellFormed_default`), and so is what a configuration file determines, whatever is in the file
(`wellFormed_of_exec_load`).
-/

namespace SchemaPages

namespace Introspection

/-- Whether a header has a name, and neither its name nor its value has blanks around it. -/
structure Header.WellFormed (header : Header) : Prop where
  name_ne_empty : header.1 ≠ ""
  name : Text.Trimmed header.1.toList
  value : Text.Trimmed header.2.toList

/-- Whether settings name at most one source and can be used for a server. -/
structure SourceSettings.WellFormed (settings : SourceSettings) : Prop where
  source :
    [settings.url.isSome, settings.jsonPath.isSome, settings.schemaPath.isSome].count true ≤ 1
  url : settings.url ≠ some ""
  headers : ∀ header ∈ settings.headers, header.WellFormed
  timeoutSeconds : 1 ≤ settings.timeoutSeconds
  maxRetries : 0 ≤ settings.maxRetries

theorem wellFormed_default : ({} : SourceSettings).WellFormed :=
  ⟨by decide, by decide, fun _ h => (List.not_mem_nil h).elim, by decide, by decide⟩

/-! ### Headers -/

theorem Header.wellFormed_of_trim {name : String} (hname : Text.trim name ≠ "") (value : String) :
    Header.WellFormed (Text.trim name, Text.trim value) where
  name_ne_empty := hname
  name := by simpa only [Text.trim, String.toList_ofList] using Text.trimmed_trimChars name.toList
  value := by simpa only [Text.trim, String.toList_ofList] using Text.trimmed_trimChars value.toList

theorem Header.wellFormed_of_parse {text : String} {header : Header}
    (h : Header.parse text = .ok header) : header.WellFormed := by
  rw [Header.parse] at h
  split at h
  · cases h
  · split at h
    · cases h
    · next name value _ _ hname =>
      cases h
      have hfound : Text.trim (String.ofList name) ≠ "" := fun hnil =>
        hname (by simpa [Text.trim] using congrArg String.toList hnil)
      simpa [Text.trim] using wellFormed_of_trim hfound (String.ofList value)

end Introspection

namespace Settings

open Files (Location Path)
open Host (Attempt Failed State)
open Introspection (Header SourceSettings)
open Yaml (Value)

/-! ### Single settings -/

theorem bind_eq_ok_iff {α β : Type} {outcome : Checked α} {next : α → Checked β} {value : β} :
    (outcome >>= next) = .ok value ↔ ∃ first, outcome = .ok first ∧ next first = .ok value := by
  cases outcome with
  | error failed => exact ⟨fun h => (nomatch h), fun ⟨_, h, _⟩ => (nomatch h)⟩
  | ok first => exact ⟨fun h => ⟨first, rfl, h⟩, fun ⟨_, rfl, h⟩ => h⟩

theorem map_eq_ok_iff {α β : Type} {outcome : Checked α} {f : α → β} {value : β} :
    f <$> outcome = .ok value ↔ ∃ first, outcome = .ok first ∧ f first = value := by
  cases outcome with
  | error failed => exact ⟨fun h => (nomatch h), fun ⟨_, h, _⟩ => (nomatch h)⟩
  | ok first => exact ⟨fun h => ⟨first, rfl, Except.ok.inj h⟩, fun ⟨_, rfl, h⟩ => h ▸ rfl⟩

variable {label name : String} {content : Section}

theorem trimmed?_eq_some_iff {text kept : String} :
    trimmed? text = some kept ↔ kept = Text.trim text ∧ kept ≠ "" := by
  rw [trimmed?, Text.trim]
  split
  · next hchars => simp [hchars]
  · next hchars =>
    rw [Option.some.injEq]
    exact ⟨fun h => ⟨h.symm, fun hkept => hchars (by simpa using h.trans hkept)⟩, fun h => h.1.symm⟩

theorem trimmed?_eq_none_iff {text : String} : trimmed? text = none ↔ Text.trim text = "" := by
  rw [← not_iff_not, ← ne_eq, Option.ne_none_iff_exists']
  exact ⟨fun ⟨_, h⟩ => (trimmed?_eq_some_iff.mp h).1 ▸ (trimmed?_eq_some_iff.mp h).2,
    fun h => ⟨_, trimmed?_eq_some_iff.mpr ⟨rfl, h⟩⟩⟩

theorem ne_empty_of_textSetting {text : String}
    (h : textSetting label name content = .ok (some text)) : text ≠ "" := by
  rw [textSetting] at h
  split at h
  · cases h
  · exact (trimmed?_eq_some_iff.mp (Except.ok.inj h)).2
  · cases h

theorem nonneg_of_naturalSetting {default n : Int} (hdefault : 0 ≤ default)
    (h : naturalSetting label name default content = .ok n) : 0 ≤ n := by
  rw [naturalSetting] at h
  split at h
  · cases h
    exact hdefault
  · split at h
    · cases h
    · next hnonneg =>
      cases h
      exact Int.not_lt.mp hnonneg
  · cases h

theorem pos_of_positiveSetting {default n : Int} (hdefault : 0 ≤ default)
    (h : positiveSetting label name default content = .ok n) : 1 ≤ n := by
  rw [positiveSetting, bind_eq_ok_iff] at h
  obtain ⟨found, hfound, h⟩ := h
  have hnonneg := nonneg_of_naturalSetting hdefault hfound
  split at h
  · cases h
  · cases h
    omega

/-! ### Headers -/

theorem wellFormed_of_headersOfEntries {entries : Section} {headers : List Header}
    (h : headersOfEntries entries = .ok headers) : ∀ header ∈ headers, header.WellFormed := by
  fun_induction headersOfEntries entries generalizing headers with
  | case1 =>
    cases h
    exact fun _ h => (List.not_mem_nil h).elim
  | case2 | case4 | case5 => cases h
  | case3 rest name trimmedName hname value ih =>
    obtain ⟨others, hrest, rfl⟩ := map_eq_ok_iff.mp h
    obtain ⟨rfl, hne⟩ := trimmed?_eq_some_iff.mp hname
    exact List.forall_mem_cons.mpr ⟨Header.wellFormed_of_trim hne _, ih hrest⟩

theorem wellFormed_of_headersOfItems {items : List Value} {headers : List Header}
    (h : headersOfItems items = .ok headers) : ∀ header ∈ headers, header.WellFormed := by
  fun_induction headersOfItems items generalizing headers with
  | case1 =>
    cases h
    exact fun _ h => (List.not_mem_nil h).elim
  | case2 | case4 => cases h
  | case3 text rest header hparse ih =>
    obtain ⟨others, hrest, rfl⟩ := map_eq_ok_iff.mp h
    exact List.forall_mem_cons.mpr ⟨Header.wellFormed_of_parse hparse, ih hrest⟩

/-- A list of texts is read like the headers of a request. -/
theorem headersOfItems_texts (texts : List String) :
    headersOfItems (texts.map fun text => .scalar (.text text)) =
      (texts.mapM Header.parse).mapError fun cause => .reported (.headerFormat cause) := by
  induction texts with
  | nil => rfl
  | cons text rest ih =>
    rw [List.map_cons, headersOfItems, ih, List.mapM_cons]
    cases Header.parse text with
    | error cause => rfl
    | ok header => cases rest.mapM Header.parse <;> rfl

theorem wellFormed_of_mapM_parse {texts : List String} {headers : List Header}
    (h : texts.mapM Header.parse = .ok headers) : ∀ header ∈ headers, header.WellFormed := by
  have hitems : headersOfItems (texts.map fun text => .scalar (.text text)) = .ok headers := by
    rw [headersOfItems_texts, h, Except.mapError]
  exact wellFormed_of_headersOfItems hitems

theorem wellFormed_of_headersSetting {headers : List Header}
    (h : headersSetting content = .ok headers) : ∀ header ∈ headers, header.WellFormed := by
  rw [headersSetting] at h
  split at h
  · cases h
    exact fun _ h => (List.not_mem_nil h).elim
  · exact wellFormed_of_headersOfEntries h
  · exact wellFormed_of_headersOfItems h
  · split at h <;> cases h
    exact fun _ h => (List.not_mem_nil h).elim
  · cases h

/-! ### Configurations -/

/-- A path is set exactly where a text is. -/
theorem isSome_of_pathSetting {working : Location} {base : Path} {text : Option String}
    {found : Option Path} (h : pathSetting working base text = .ok found) :
    found.isSome = text.isSome := by
  cases text with
  | none =>
    cases h
    rfl
  | some text =>
    obtain ⟨path, -, rfl⟩ := map_eq_ok_iff.mp h
    rfl

/-- What a section determines is well-formed. -/
theorem wellFormed_of_sourceOf {working : Location} {base : Path} {settings : SourceSettings}
    (h : sourceOf working base content = .ok settings) : settings.WellFormed := by
  simp only [sourceOf, bind_eq_ok_iff] at h
  obtain ⟨found, -, url, hurl, json, -, schema, -, h⟩ := h
  split at h
  · cases h
  · next hsources =>
    simp only [bind_eq_ok_iff] at h
    obtain ⟨headers, hheaders, jsonPath, hjson, schemaPath, hschema, seconds, hseconds, retries,
      hretries, backoff, -, h⟩ := h
    cases h
    exact {
      source := by
        rw [isSome_of_pathSetting hjson, isSome_of_pathSetting hschema]
        cases url <;> cases json <;> cases schema <;> simp_all
      url := by
        rintro rfl
        exact ne_empty_of_textSetting hurl rfl
      headers := wellFormed_of_headersSetting hheaders
      timeoutSeconds := pos_of_positiveSetting (by decide) hseconds
      maxRetries := nonneg_of_naturalSetting (by decide) hretries }

theorem wellFormed_of_ofValue {working : Location} {path : Path} {value : Value}
    {configuration : Configuration}
    (h : Configuration.ofValue working path value = .ok configuration) :
    configuration.source.WellFormed := by
  rw [Configuration.ofValue.eq_def] at h
  have hsections : ∃ content, sourceOf working path.parent content = .ok configuration.source := by
    split at h <;> simp only [bind_eq_ok_iff] at h <;>
      obtain ⟨content, -, source, hsource, output, -, h⟩ := h <;> cases h <;>
      exact ⟨content, hsource⟩
  obtain ⟨content, hsource⟩ := hsections
  exact wellFormed_of_sourceOf hsource

/-- What a configuration file determines is well-formed. -/
theorem wellFormed_of_exec_load {pathText : String} {configuration : Configuration}
    {before after : State}
    (h : (Configuration.load pathText).exec before = (.ok configuration, after)) :
    configuration.source.WellFormed := by
  rw [Configuration.load, Attempt.exec_bind_eq_ok_iff] at h
  obtain ⟨there, found, -, h⟩ := h
  split at h
  · cases h
  · simp only [Attempt.exec_bind_eq_ok_iff, Attempt.exec_check_eq_ok_iff] at h
    obtain ⟨working, _, -, answer, _, -, bytes, _, -, text, _, -, htext, -⟩ := h
    rw [Configuration.ofText, bind_eq_ok_iff] at htext
    obtain ⟨value, -, hvalue⟩ := htext
    exact wellFormed_of_ofValue hvalue

end Settings

end SchemaPages
