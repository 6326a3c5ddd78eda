import SchemaPages.Proofs.Settings.Notations
import SchemaPages.Proofs.Shared.Values

/-!
# Configurations written in JSON

A configuration may be written in JSON, but it is read as YAML all the same. For an object whose
text both notations read alike that makes little difference: the outcome is that of checking the
value of its spelling, which is the value of the JSON text if all words and numbers mean the same in
both notations. A number that YAML takes for a text, such as `1e5`, is lost as a number: a
configuration that would be accepted is refused if its pause is written like that, and otherwise it
is loaded as it is meant (`exec_load_json`).
-/

namespace SchemaPages.Settings

open Files (Location Path)
open Host (Attempt State)
open Introspection (Header SourceSettings)
open Json (Spelling Items Members)
open Yaml (Value Scalar)

variable {working : Location} {base path : Path} {content : Section} {label name : String}

/-! ### Values down to a depth -/

/-- The entries of a mapping down to a depth. -/
def cutEntries (depth : Nat) (content : Section) : Section :=
  content.map (Prod.map id (Value.cut depth))

theorem entry?_cutEntries (depth : Nat) (name : String) (content : Section) :
    Value.entry? name (cutEntries depth content) =
      (Value.entry? name content).map (Value.cut depth) := by
  rw [Value.entry?, Value.entry?, cutEntries, List.find?_map, Option.map_map, Option.map_map]
  rfl

theorem setting?_cutEntries (depth : Nat) (name : String) (content : Section) :
    setting? name (cutEntries depth content) = (setting? name content).map (Value.cut depth) := by
  rw [setting?, setting?, entry?_cutEntries]
  rcases Value.entry? name content with _ | value
  · rfl
  cases value with
  | scalar value =>
    rw [Option.map_some, Value.cut_scalar]
    cases value with
    | null => rfl
    | _ => exact (congrArg some (Value.cut_scalar depth _)).symm
  | _ => cases depth <;> rfl

/-- A section is looked at one level deeper. -/
theorem sectionOf_cutEntries (depth : Nat) (name : String) (content : Section) :
    sectionOf name (cutEntries (depth + 1) content) =
      (sectionOf name content).map (cutEntries depth) := by
  rw [sectionOf, sectionOf, setting?_cutEntries]
  rcases setting? name content with _ | value
  · rfl
  cases value with
  | scalar value =>
    rw [Option.map_some, Value.cut_scalar]
    rfl
  | _ => rfl

theorem textSetting_cutEntries (depth : Nat) (label name : String) (content : Section) :
    textSetting label name (cutEntries depth content) = textSetting label name content := by
  rw [textSetting, textSetting, setting?_cutEntries]
  rcases setting? name content with _ | value
  · rfl
  cases value with
  | scalar value => rw [Option.map_some, Value.cut_scalar]
  | _ => cases depth <;> rfl

theorem naturalSetting_cutEntries (depth : Nat) (label name : String) (default : Int)
    (content : Section) : naturalSetting label name default (cutEntries depth content) =
      naturalSetting label name default content := by
  rw [naturalSetting, naturalSetting, entry?_cutEntries]
  rcases Value.entry? name content with _ | value
  · rfl
  cases value with
  | scalar value => rw [Option.map_some, Value.cut_scalar]
  | _ => cases depth <;> rfl

theorem numberSetting_cutEntries (depth : Nat) (label name : String) (default : Float)
    (content : Section) : numberSetting label name default (cutEntries depth content) =
      numberSetting label name default content := by
  rw [numberSetting, numberSetting, entry?_cutEntries]
  rcases Value.entry? name content with _ | value
  · rfl
  cases value with
  | scalar value => rw [Option.map_some, Value.cut_scalar]
  | _ => cases depth <;> rfl

theorem headersOfEntries_cutEntries (depth : Nat) (content : Section) :
    headersOfEntries (cutEntries depth content) = headersOfEntries content := by
  induction content with
  | nil => rfl
  | cons entry rest ih =>
    obtain ⟨key, value⟩ := entry
    change headersOfEntries ((key, value.cut depth) :: cutEntries depth rest) = _
    cases key with
    | text name =>
      rw [headersOfEntries, headersOfEntries, ih]
      cases value with
      | scalar value => rw [Value.cut_scalar]
      | _ => cases depth <;> rfl
    | _ => rfl

theorem headersOfItems_cut (depth : Nat) (items : List Value) :
    headersOfItems (items.map (Value.cut depth)) = headersOfItems items := by
  induction items with
  | nil => rfl
  | cons item rest ih =>
    rw [List.map_cons]
    cases item with
    | scalar value =>
      rw [Value.cut_scalar]
      cases value with
      | text text => rw [headersOfItems, headersOfItems, ih]
      | _ => rfl
    | _ => cases depth <;> rfl

/-- Headers are looked at one level deeper. -/
theorem headersSetting_cutEntries (depth : Nat) (content : Section) :
    headersSetting (cutEntries (depth + 1) content) = headersSetting content := by
  rw [headersSetting, headersSetting, setting?_cutEntries]
  rcases setting? "headers" content with _ | value
  · rfl
  cases value with
  | scalar value => rw [Option.map_some, Value.cut_scalar]
  | sequence items => exact headersOfItems_cut depth items
  | mapping entries => exact headersOfEntries_cutEntries depth entries
  | set members => rfl

theorem sourceOf_cutEntries (depth : Nat) (working : Location) (base : Path) (content : Section) :
    sourceOf working base (cutEntries (depth + 2) content) = sourceOf working base content := by
  rw [sourceOf, sourceOf, sectionOf_cutEntries]
  rcases sectionOf "source" content with failed | source
  · rfl
  · simp only [Except.map, bind, Except.bind, textSetting_cutEntries, headersSetting_cutEntries,
      positiveSetting, naturalSetting_cutEntries, numberSetting_cutEntries]

theorem outputOf_cutEntries (depth : Nat) (working : Location) (base : Path) (content : Section) :
    outputOf working base (cutEntries (depth + 1) content) = outputOf working base content := by
  rw [outputOf, outputOf, sectionOf_cutEntries]
  rcases sectionOf "output" content with failed | output
  · rfl
  · simp only [Except.map, bind, Except.bind, textSetting_cutEntries]

/-- Settings do not lie deeper than the depth that is looked at. -/
theorem ofValue_cut (working : Location) (path : Path) (value : Value) :
    Configuration.ofValue working path (value.cut settingDepth) =
      Configuration.ofValue working path value := by
  cases value with
  | scalar value => rw [Value.cut_scalar]
  | mapping entries =>
    change Configuration.ofValue working path (.mapping (cutEntries 2 entries)) = _
    simp only [Configuration.ofValue, bind, Except.bind, sourceOf_cutEntries 0,
      outputOf_cutEntries 1]
  | _ => rfl

/-! ### Settings as they are written -/

/-- The entries of an object as they are read. -/
def loadedEntries (entries : List (String × Spelling)) : Section :=
  entries.map (Prod.map Scalar.text Spelling.loaded)

/-- The entries of an object as they are meant. -/
def meantEntries (entries : List (String × Spelling)) : Section :=
  entries.map (Prod.map Scalar.text fun value => Value.ofJson value.value)

/-- Whether a value is a number, or a word for one, that is taken for a text. -/
def isTakenForText : Spelling → Bool
  | .plain value => !value.isShared
  | _ => false

variable {entries : List (String × Spelling)} {value : Spelling} {scalar : Scalar}

theorem entry?_map_text {α : Type} (g : α → Value) (name : String) (entries : List (String × α)) :
    Value.entry? name (entries.map (Prod.map Scalar.text g)) = (entries.lookup name).map g := by
  induction entries with
  | nil => rfl
  | cons entry rest ih =>
    obtain ⟨key, value⟩ := entry
    rw [List.map_cons, Prod.map_apply, entry?_cons]
    by_cases hkey : name = key
    · subst hkey
      rw [if_pos (beq_text_iff.mpr rfl), List.lookup_cons_self, Option.map_some]
    · have hother : ¬ (Scalar.text key == .text name) = true := by
        rw [beq_text_iff]
        exact fun heq => hkey (Scalar.text.inj heq).symm
      rw [if_neg hother, List.lookup_cons, beq_false_of_ne hkey, ih]

/-- What is meant as a scalar is read as it is meant, unless it is a float that is taken for a text.
-/
theorem loaded_of_meant (h : Value.ofJson value.value = .scalar scalar) :
    isTakenForText value = false ∧ value.loaded = .scalar scalar ∨
      isTakenForText value = true ∧ (∃ text, value.loaded = .scalar (.text text)) ∧
        ∃ x, scalar = .float x := by
  cases value with
  | plain value =>
    by_cases hshared : value.isShared
    · refine .inl ⟨?_, (Json.Plain.ofJson_value hshared).symm.trans h⟩
      rw [isTakenForText, hshared, Bool.not_true]
    · obtain ⟨htext, x, hx⟩ := Json.Plain.scalar_of_not_isShared hshared
      refine .inr ⟨?_, ⟨_, congrArg Value.scalar htext⟩, x, ?_⟩
      · rw [isTakenForText, Bool.eq_false_iff.mpr hshared, Bool.not_false]
      · rw [Spelling.value, hx, Value.ofJson] at h
        exact (Value.scalar.inj h).symm
  | text strokes =>
    rw [Spelling.value, Value.ofJson] at h
    exact .inl ⟨rfl, h⟩
  | array gap items =>
    rw [Spelling.value, Value.ofJson] at h
    cases h
  | object gap members =>
    rw [Spelling.value, Value.ofJson] at h
    cases h

theorem loaded_object (gap : Json.Gap) (members : Members) :
    (Spelling.object gap members).loaded =
      .mapping (loadedEntries (Pairs.ofList members.entries)) := by
  rw [Spelling.loaded, members.loaded_eq_map, loadedEntries, Pairs.map_ofList Json.beq_text]

theorem meant_object (gap : Json.Gap) (members : Members) :
    Value.ofJson (Spelling.object gap members).value =
      .mapping (meantEntries (Pairs.ofList members.entries)) := by
  have hvalues : Pairs.ofList members.values =
      (Pairs.ofList members.entries).map (Prod.map id Spelling.value) := by
    rw [members.values_eq_map, Pairs.map_ofList (f := id) fun _ _ => rfl]
  rw [Spelling.value, Value.ofJson, Value.ofMembers_eq_map, hvalues, List.map_map]
  rfl

/-- Only an object is meant as a mapping. -/
theorem exists_of_meant_mapping (h : Value.ofJson value.value = .mapping content) :
    ∃ entries, content = meantEntries entries ∧ value.loaded = .mapping (loadedEntries entries) ∧
      ∀ name, value.member? name = entries.lookup name := by
  cases value with
  | plain value =>
    obtain ⟨scalar, hscalar⟩ := value.exists_ofJson_value
    cases hscalar.symm.trans h
  | text strokes =>
    rw [Spelling.value, Value.ofJson] at h
    cases h
  | array gap items =>
    rw [Spelling.value, Value.ofJson] at h
    cases h
  | object gap members =>
    rw [meant_object] at h
    exact ⟨_, (Value.mapping.inj h).symm, loaded_object gap members, fun _ => rfl⟩

/-- Only an array is meant as a sequence. -/
theorem exists_of_meant_sequence {items : List Value}
    (h : Value.ofJson value.value = .sequence items) :
    ∃ values : List Spelling, items = values.map (fun value => Value.ofJson value.value) ∧
      value.loaded = .sequence (values.map Spelling.loaded) := by
  cases value with
  | plain value =>
    obtain ⟨scalar, hscalar⟩ := value.exists_ofJson_value
    cases hscalar.symm.trans h
  | text strokes =>
    rw [Spelling.value, Value.ofJson] at h
    cases h
  | array gap items =>
    refine ⟨items.toList, ?_, by rw [Spelling.loaded, items.loaded_eq_map]⟩
    rw [Spelling.value, Value.ofJson, Value.ofItems_eq_map, items.values_eq_map, List.map_map] at h
    exact (Value.sequence.inj h).symm
  | object gap members =>
    rw [meant_object] at h
    cases h

/-- What is meant as a scalar has no members. -/
theorem member?_of_meant (h : Value.ofJson value.value = .scalar scalar) :
    value.member? name = none := by
  cases value with
  | object gap members =>
    rw [meant_object] at h
    cases h
  | _ => rfl

/-! ### Settings that are accepted -/

theorem entry?_loadedEntries (name : String) (entries : List (String × Spelling)) :
    Value.entry? name (loadedEntries entries) = (entries.lookup name).map Spelling.loaded :=
  entry?_map_text _ name entries

theorem entry?_meantEntries (name : String) (entries : List (String × Spelling)) :
    Value.entry? name (meantEntries entries) =
      (entries.lookup name).map fun value => Value.ofJson value.value :=
  entry?_map_text _ name entries

/-- A setting that is meant as a scalar other than a float is read as it is meant. -/
theorem entry?_of_scalar (h : Value.entry? name (meantEntries entries) = some (.scalar scalar))
    (hfloat : ∀ x, scalar ≠ .float x) :
    Value.entry? name (loadedEntries entries) = some (.scalar scalar) := by
  rw [entry?_meantEntries] at h
  obtain ⟨value, hvalue, hmeant⟩ := Option.map_eq_some_iff.mp h
  rw [entry?_loadedEntries, hvalue]
  rcases loaded_of_meant hmeant with ⟨-, hloaded⟩ | ⟨-, -, x, hx⟩
  · exact congrArg some hloaded
  · exact absurd hx (hfloat x)

theorem entry?_of_none (h : Value.entry? name (meantEntries entries) = none) :
    Value.entry? name (loadedEntries entries) = none := by
  rw [entry?_meantEntries, Option.map_eq_none_iff] at h
  rw [entry?_loadedEntries, h, Option.map_none]

/-- A setting is left out if it is not there, or if it is the missing value. -/
theorem setting?_eq_none_iff : setting? name content = none ↔
    Value.entry? name content = none ∨ Value.entry? name content = some (.scalar .null) := by
  rw [setting?]
  split
  · next h => exact iff_of_true rfl (.inr h)
  · next h => exact ⟨.inl, fun hcases => hcases.resolve_right h⟩

theorem setting?_eq_some_iff {value : Value} : setting? name content = some value ↔
    Value.entry? name content = some value ∧ value ≠ .scalar .null := by
  rw [setting?]
  split
  · next h =>
    rw [h]
    refine iff_of_false (Option.some_ne_none value).symm ?_
    rintro ⟨hsome, hne⟩
    exact hne (Option.some.inj hsome).symm
  · next h =>
    refine ⟨fun hsome => ⟨hsome, ?_⟩, And.left⟩
    rintro rfl
    exact h hsome

theorem setting?_of_none (h : setting? name (meantEntries entries) = none) :
    setting? name (loadedEntries entries) = none := by
  rw [setting?_eq_none_iff] at h ⊢
  exact h.imp entry?_of_none fun hnull => entry?_of_scalar hnull (fun _ => Yaml.Scalar.noConfusion)

theorem exists_of_setting? {found : Value} (h : setting? name (meantEntries entries) = some found) :
    ∃ value, entries.lookup name = some value ∧ Value.ofJson value.value = found := by
  rw [setting?_eq_some_iff, entry?_meantEntries] at h
  exact Option.map_eq_some_iff.mp h.1

theorem setting?_loadedEntries (hvalue : entries.lookup name = some value)
    (hne : value.loaded ≠ .scalar .null) :
    setting? name (loadedEntries entries) = some value.loaded := by
  rw [setting?_eq_some_iff, entry?_loadedEntries, hvalue]
  exact ⟨rfl, hne⟩

theorem sectionOf_loadedEntries {content : Section}
    (h : sectionOf name (meantEntries entries) = .ok content) :
    ∃ inner, content = meantEntries inner ∧
      sectionOf name (loadedEntries entries) = .ok (loadedEntries inner) ∧
        ∀ other, (entries.lookup name).bind (Spelling.member? other) = inner.lookup other := by
  rw [sectionOf] at h ⊢
  split at h
  · next hnone =>
    cases h
    refine ⟨[], rfl, by rw [setting?_of_none hnone]; rfl, fun other => ?_⟩
    rw [setting?_eq_none_iff, entry?_meantEntries, Option.map_eq_none_iff] at hnone
    rcases hnone with hnone | hnull
    · rw [hnone]
      rfl
    · obtain ⟨value, hvalue, hmeant⟩ := Option.map_eq_some_iff.mp hnull
      rw [hvalue]
      exact member?_of_meant hmeant
  · next found hfound =>
    cases h
    obtain ⟨value, hvalue, hmeant⟩ := exists_of_setting? hfound
    obtain ⟨inner, rfl, hloaded, hmember⟩ := exists_of_meant_mapping hmeant
    have hsome := setting?_loadedEntries hvalue (by rw [hloaded]; exact Value.noConfusion)
    refine ⟨inner, rfl, by rw [hsome, hloaded], fun other => ?_⟩
    rw [hvalue]
    exact hmember other
  · cases h

theorem textSetting_loadedEntries {text : Option String}
    (h : textSetting label name (meantEntries entries) = .ok text) :
    textSetting label name (loadedEntries entries) = .ok text := by
  rw [textSetting] at h ⊢
  split at h
  · next hnone => rw [setting?_of_none hnone, ← h]
  · next hsome =>
    obtain ⟨hentry, hne⟩ := setting?_eq_some_iff.mp hsome
    have hloaded := entry?_of_scalar hentry fun _ => Yaml.Scalar.noConfusion
    rw [setting?_eq_some_iff.mpr ⟨hloaded, hne⟩, ← h]
  · cases h

theorem naturalSetting_loadedEntries {default n : Int}
    (h : naturalSetting label name default (meantEntries entries) = .ok n) :
    naturalSetting label name default (loadedEntries entries) = .ok n := by
  rw [naturalSetting] at h ⊢
  split at h
  · next hnone => rw [entry?_of_none hnone, ← h]
  · next hsome => rw [entry?_of_scalar hsome (fun _ => Yaml.Scalar.noConfusion), ← h]
  · cases h

theorem positiveSetting_loadedEntries {default n : Int}
    (h : positiveSetting label name default (meantEntries entries) = .ok n) :
    positiveSetting label name default (loadedEntries entries) = .ok n := by
  rw [positiveSetting, bind_eq_ok_iff] at h
  obtain ⟨m, hm, hcheck⟩ := h
  rw [positiveSetting, naturalSetting_loadedEntries hm]
  exact hcheck

/-- A number is refused if it is taken for a text. -/
theorem numberSetting_loadedEntries {default x : Float}
    (h : numberSetting label name default (meantEntries entries) = .ok x) :
    numberSetting label name default (loadedEntries entries) =
      if (entries.lookup name).any isTakenForText then refuse (.notNumber (label ++ "." ++ name))
      else .ok x := by
  rw [numberSetting, entry?_meantEntries] at h
  rw [numberSetting, entry?_loadedEntries]
  rcases hvalue : entries.lookup name with _ | value
  · rw [hvalue] at h
    exact h
  rw [hvalue, Option.map_some] at h
  rw [Option.map_some, Option.any_some]
  cases hmeant : Value.ofJson value.value with
  | scalar scalar =>
    rw [hmeant] at h
    rcases loaded_of_meant hmeant with ⟨hknown, hloaded⟩ | ⟨htaken, ⟨text, hloaded⟩, -⟩
    · rw [hloaded, hknown, if_neg Bool.false_ne_true, ← h]
    · rw [hloaded, htaken, if_pos rfl]
  | _ =>
    rw [hmeant] at h
    cases h

theorem headersOfEntries_loadedEntries {headers : List Header}
    (h : headersOfEntries (meantEntries entries) = .ok headers) :
    headersOfEntries (loadedEntries entries) = .ok headers := by
  induction entries generalizing headers with
  | nil => exact h
  | cons entry rest ih =>
    obtain ⟨name, value⟩ := entry
    change headersOfEntries ((.text name, Value.ofJson value.value) :: meantEntries rest) = _ at h
    change headersOfEntries ((.text name, value.loaded) :: loadedEntries rest) = _
    rw [headersOfEntries] at h ⊢
    split at h
    · cases h
    · next trimmedName htrimmed =>
      split at h
      · next text hmeant =>
        obtain ⟨others, hrest, rfl⟩ := map_eq_ok_iff.mp h
        rcases loaded_of_meant hmeant with ⟨-, hloaded⟩ | ⟨-, -, x, hx⟩
        · rw [hloaded, ih hrest]
          rfl
        · cases hx
      · cases h

theorem headersOfItems_loaded {values : List Spelling} {headers : List Header}
    (h : headersOfItems (values.map fun value => Value.ofJson value.value) = .ok headers) :
    headersOfItems (values.map Spelling.loaded) = .ok headers := by
  induction values generalizing headers with
  | nil => exact h
  | cons value rest ih =>
    rw [List.map_cons] at h ⊢
    cases hmeant : Value.ofJson value.value with
    | scalar scalar =>
      rw [hmeant] at h
      rcases loaded_of_meant hmeant with ⟨-, hloaded⟩ | ⟨-, -, x, rfl⟩
      · rw [hloaded]
        cases scalar with
        | text text =>
          rw [headersOfItems] at h ⊢
          split at h
          · cases h
          · obtain ⟨others, hrest, rfl⟩ := map_eq_ok_iff.mp h
            rw [ih hrest]
            rfl
        | _ => cases h
      · cases h
    | _ =>
      rw [hmeant] at h
      cases h

theorem headersSetting_loadedEntries {headers : List Header}
    (h : headersSetting (meantEntries entries) = .ok headers) :
    headersSetting (loadedEntries entries) = .ok headers := by
  rw [headersSetting] at h ⊢
  split at h
  · next hnone => rw [setting?_of_none hnone, ← h]
  · next content hsome =>
    obtain ⟨value, hvalue, hmeant⟩ := exists_of_setting? hsome
    obtain ⟨inner, rfl, hloaded, -⟩ := exists_of_meant_mapping hmeant
    rw [setting?_loadedEntries hvalue (by rw [hloaded]; exact Value.noConfusion), hloaded]
    exact headersOfEntries_loadedEntries h
  · next items hsome =>
    obtain ⟨value, hvalue, hmeant⟩ := exists_of_setting? hsome
    obtain ⟨values, rfl, hloaded⟩ := exists_of_meant_sequence hmeant
    rw [setting?_loadedEntries hvalue (by rw [hloaded]; exact Value.noConfusion), hloaded]
    exact headersOfItems_loaded h
  · next bytes hsome =>
    obtain ⟨hentry, hne⟩ := setting?_eq_some_iff.mp hsome
    have hloaded := entry?_of_scalar hentry fun _ => Yaml.Scalar.noConfusion
    rw [setting?_eq_some_iff.mpr ⟨hloaded, hne⟩, ← h]
  · cases h

/-- The error of a pause that is no number. -/
def pauseNotNumber : Error :=
  .notNumber ("source." ++ backoffSetting)

/-- A source that is accepted as it is meant is refused if its pause is taken for a text, and else
accepted as it is meant. -/
theorem sourceOf_loadedEntries {settings : SourceSettings}
    (h : sourceOf working base (meantEntries entries) = .ok settings) :
    sourceOf working base (loadedEntries entries) =
      if ((entries.lookup "source").bind (Spelling.member? backoffSetting)).any isTakenForText then
        refuse pauseNotNumber
      else .ok settings := by
  simp only [sourceOf, bind_eq_ok_iff] at h
  obtain ⟨source, hsource, url, hurl, json, hjson, schema, hschema, h⟩ := h
  obtain ⟨inner, rfl, hloaded, hmember⟩ := sectionOf_loadedEntries hsource
  split at h
  · cases h
  next hsingle =>
    simp only [bind_eq_ok_iff] at h
    obtain ⟨headers, hheaders, jsonPath, hjsonPath, schemaPath, hschemaPath, seconds, hseconds,
      retries, hretries, pause, hpause, h⟩ := h
    have hnumber := numberSetting_loadedEntries hpause
    simp only [sourceOf, hloaded, textSetting_loadedEntries hurl, textSetting_loadedEntries hjson,
      textSetting_loadedEntries hschema, hsingle, headersSetting_loadedEntries hheaders, hjsonPath,
      hschemaPath, positiveSetting_loadedEntries hseconds, naturalSetting_loadedEntries hretries,
      hnumber, bind, Except.bind, if_false, hmember, backoffSetting]
    by_cases htaken : (inner.lookup "retry_backoff_seconds").any isTakenForText = true
    · rw [if_pos htaken, if_pos htaken]
      rfl
    · rw [if_neg htaken, if_neg htaken]
      exact h

theorem outputOf_loadedEntries {output : OutputSettings}
    (h : outputOf working base (meantEntries entries) = .ok output) :
    outputOf working base (loadedEntries entries) = .ok output := by
  simp only [outputOf, bind_eq_ok_iff] at h
  obtain ⟨content, hcontent, outDir, houtDir, frontMatter, hfrontMatter, path, hpath, h⟩ := h
  obtain ⟨inner, rfl, hloaded, -⟩ := sectionOf_loadedEntries hcontent
  simp only [outputOf, hloaded, textSetting_loadedEntries houtDir,
    textSetting_loadedEntries hfrontMatter, hpath, bind, Except.bind]
  exact h

/-- The pause as it is written. -/
def writtenPause? (value : Spelling) : Option Spelling :=
  (value.member? "source").bind (Spelling.member? backoffSetting)

/-- A configuration that is accepted as it is meant is refused if its pause is taken for a text, and
else accepted as it is meant. -/
theorem ofValue_loaded {configuration : Configuration} {members : List (String × Json)}
    (hobject : value.value = .object members)
    (h : Configuration.ofValue working path (Value.ofJson value.value) = .ok configuration) :
    Configuration.ofValue working path value.loaded =
      if (writtenPause? value).any isTakenForText then refuse pauseNotNumber
      else .ok configuration := by
  have hmapping : Value.ofJson value.value = .mapping (Value.ofMembers members) := by
    rw [hobject, Value.ofJson]
  obtain ⟨entries, hcontent, hloaded, hmember⟩ := exists_of_meant_mapping hmapping
  rw [hmapping, hcontent] at h
  simp only [Configuration.ofValue, bind_eq_ok_iff] at h
  obtain ⟨_, ⟨⟩, source, hsource, output, houtput, h⟩ := h
  simp only [Configuration.ofValue, hloaded, sourceOf_loadedEntries hsource,
    outputOf_loadedEntries houtput, writtenPause?, hmember, bind, Except.bind]
  by_cases htaken : ((entries.lookup "source").bind
      (Spelling.member? backoffSetting)).any isTakenForText = true
  · rw [if_pos htaken, if_pos htaken]
    rfl
  · rw [if_neg htaken, if_neg htaken]
    exact h

/-! ### Files -/

/-- Only an object is written in braces. -/
theorem exists_of_value_object {members : List (String × Json)}
    (h : value.value = .object members) : ∃ gap inner, value = .object gap inner := by
  cases value with
  | plain value =>
    obtain ⟨scalar, hscalar⟩ := value.exists_ofJson_value
    rw [Spelling.value] at h
    rw [h, Value.ofJson] at hscalar
    cases hscalar
  | text strokes => cases h
  | array gap items => cases h
  | object gap members => exact ⟨gap, members, rfl⟩

/-- **Configurations written in JSON.** Take a file with an object whose text both notations read
alike; so no escape is half of a pair, no integer has too many digits, and nothing lies too deep.
The outcome of loading is that of checking the value of its spelling. Where all words and numbers
mean the same this is the value of the JSON text. A configuration that is accepted as it is meant is
loaded as it is meant, unless its pause is a number that is taken for a text; it is refused then. -/
theorem exec_load_json {document : Json.Document} {members : List (String × Json)}
    {pathText : String} {before : State} (hshared : document.Shared)
    (hobject : Json.read document.text = .ok (.object members))
    (hfile : Holds before (Path.ofString pathText) document.text) :
    (Configuration.load pathText).exec before =
        (Configuration.ofValue before.working (Path.ofString pathText) document.value.loaded,
          before) ∧
      (document.value.Alike → (Configuration.load pathText).exec before =
        (Configuration.ofValue before.working (Path.ofString pathText)
          (Value.ofJson (.object members)), before)) ∧
      ∀ configuration,
        Configuration.ofValue before.working (Path.ofString pathText)
          (Value.ofJson (.object members)) = .ok configuration →
        (Configuration.load pathText).exec before =
          (if (writtenPause? document.value).any isTakenForText then refuse pauseNotNumber
            else .ok configuration, before) := by
  have hvalue : document.value.value = .object members :=
    Except.ok.inj ((Json.read_eq_ok_iff.mpr ⟨document, rfl, rfl⟩).symm.trans hobject)
  obtain ⟨gap, inner, hspelling⟩ := exists_of_value_object hvalue
  have htext : Configuration.ofText before.working (Path.ofString pathText) document.text =
      Configuration.ofValue before.working (Path.ofString pathText) document.value.loaded := by
    rw [Configuration.ofText, Json.Document.load_eq hshared hspelling]
    exact ofValue_cut _ _ _
  have hload : (Configuration.load pathText).exec before =
      (Configuration.ofValue before.working (Path.ofString pathText) document.value.loaded,
        before) := by
    obtain ⟨bytes, hread, hbytes⟩ := hfile
    rw [exec_load_of_read hread, hbytes, ← htext]
  refine ⟨hload, fun halike => ?_, fun configuration haccepted => ?_⟩
  · rw [hload, Spelling.loaded_eq halike, hvalue]
  · rw [← hvalue] at haccepted
    rw [hload, ofValue_loaded hvalue haccepted]

/-- A host with a file in its working directory. -/
def jsonHost (text : String) : State :=
  { files := ⟨[(["work"], .directory), (["work", "c.json"], .file (Text.Utf8.encode text))]⟩
    working := ["work"], input := [], replies := [], sent := [], pauses := [], notes := [] }

/-- An object with a pause in its section for the source. -/
def pauseDocument (pause : Json.Numeral) : Json.Document :=
  let none := Json.Gap.none
  let space : Json.Gap := ⟨[' '], List.forall_mem_singleton.mpr rfl⟩
  let source : Spelling := .object none
    (.member none (Json.strokesOf backoffSetting) none space (.plain (.number pause)) none .close)
  ⟨none, .object none (.member none (Json.strokesOf "source") none space source none .close), none⟩

theorem read_pauseDocument (pause : Json.Numeral) : Json.read (pauseDocument pause).text =
    .ok (.object [("source", .object [(backoffSetting, pause.value)])]) := by
  have hsource : Json.meantText (Json.strokesOf "source") = "source" :=
    Json.meantText_strokesOf (by decide)
  have hpause : Json.meantText (Json.strokesOf backoffSetting) = backoffSetting :=
    Json.meantText_strokesOf (by decide)
  refine Json.read_eq_ok_iff.mpr ⟨_, rfl, ?_⟩
  simp only [pauseDocument, Spelling.value, Members.values, Json.Plain.value, hsource, hpause]
  rfl

/-- A pause with a point, and with a sign in front of its exponent. -/
def knownPause : Json.Numeral :=
  let exponent : Json.Exponent :=
    ⟨'e', some '+', ['2'], Json.Exponent.lower_letter, by rintro _ ⟨⟩; exact .inl rfl,
      List.cons_ne_nil _ _, List.forall_mem_singleton.mpr rfl⟩
  ⟨false, ['1'], ['5'], some exponent, by decide, List.forall_mem_singleton.mpr rfl,
    List.forall_mem_singleton.mpr rfl⟩

theorem exec_load_json_known : (pauseDocument knownPause).Shared ∧
    ∃ members, Json.read (pauseDocument knownPause).text = .ok (.object members) ∧
      ∃ before, Holds before (Path.ofString "c.json") (pauseDocument knownPause).text ∧
        ∃ configuration, (Configuration.load "c.json").exec before = (.ok configuration, before) ∧
          configuration.source.retryBackoffSeconds = Number.nearestFloat 15 1 := by
  have hshared : (pauseDocument knownPause).Shared := by
    have hallowed : (pauseDocument knownPause).chars.all Yaml.isAllowed := by decide +kernel
    have hkinds : (pauseDocument knownPause).chars.all Yaml.isShared := by decide +kernel
    refine ⟨List.all_eq_true.mp hallowed, List.all_eq_true.mp hkinds, ?_, by decide +kernel⟩
    have hnone : ∀ c ∈ Json.Gap.none.val, c = ' ' := List.forall_mem_nil _
    have hpause : Json.Plain.Short (.number knownPause) := fun hinteger => nomatch hinteger
    exact ⟨⟨by decide +kernel, hnone, by decide +kernel⟩,
      ⟨⟨by decide +kernel, hnone, by decide +kernel⟩, hpause, trivial⟩, trivial⟩
  have hread := read_pauseDocument knownPause
  have hfile : Holds (jsonHost (pauseDocument knownPause).text) (Path.ofString "c.json")
      (pauseDocument knownPause).text := ⟨Text.Utf8.encode _, rfl, by decide +kernel⟩
  have haccepted : Configuration.ofValue ["work"] (Path.ofString "c.json")
      (Value.ofJson (.object [("source", .object [(backoffSetting, knownPause.value)])])) =
        .ok { path := some (Path.ofString "c.json")
              source := { retryBackoffSeconds := Number.nearestFloat 15 1 } } := by
    rfl
  have hkept : (writtenPause? (pauseDocument knownPause).value).any isTakenForText = false := by
    decide +kernel
  obtain ⟨-, -, hload⟩ := exec_load_json hshared hread hfile
  have hloaded := hload _ haccepted
  rw [hkept, if_neg Bool.false_ne_true] at hloaded
  exact ⟨hshared, _, hread, _, hfile, _, hloaded, rfl⟩

/-- A pause that is a number in JSON only. -/
def lostPause : String :=
  "\x7b\"source\": \x7b\"retry_backoff_seconds\": 1e5\x7d\x7d"

/-- A pause that would be accepted as it is meant is refused for not being a number. -/
theorem exec_load_json_lost : ∃ members configuration,
    Json.read lostPause = .ok (.object members) ∧
      Configuration.ofValue (jsonHost lostPause).working (Path.ofString "c.json")
        (Value.ofJson (.object members)) = .ok configuration ∧
      configuration.source.retryBackoffSeconds = Number.nearestFloat 1 5 ∧
      (Configuration.load "c.json").exec (jsonHost lostPause) =
        (refuse (.notNumber "source.retry_backoff_seconds"), jsonHost lostPause) := by
  have hpause : ∃ pause : Json.Numeral, lostPause = (pauseDocument pause).text ∧
      pause.value = .float (Number.nearestFloat 1 5) := by
    refine ⟨⟨false, ['1'], [], some ⟨'e', none, ['5'], Json.Exponent.lower_letter, nofun,
      List.cons_ne_nil _ _, List.forall_mem_singleton.mpr rfl⟩, by decide,
      List.forall_mem_singleton.mpr rfl, List.forall_mem_nil _⟩, by decide +kernel, rfl⟩
  obtain ⟨pause, htext, hvalue⟩ := hpause
  have hread : Json.read lostPause = .ok (.object [("source", .object
      [(backoffSetting, .float (Number.nearestFloat 1 5))])]) := by
    rw [htext, read_pauseDocument, hvalue]
  have hbytes : Introspection.textOfBytes (Text.Utf8.encode lostPause) = .ok lostPause := by
    decide +kernel
  have hrefused : (Configuration.ofText ["work"] (Path.ofString "c.json") lostPause).map
      (fun _ => ()) = refuse (.notNumber "source.retry_backoff_seconds") := by decide +kernel
  have hload : Configuration.ofText ["work"] (Path.ofString "c.json") lostPause =
      refuse (.notNumber "source.retry_backoff_seconds") := by
    rcases hchecked : Configuration.ofText ["work"] (Path.ofString "c.json") lostPause with
      failed | configuration
    · rw [hchecked] at hrefused
      cases hrefused
      rfl
    · rw [hchecked] at hrefused
      cases hrefused
  have hfile : (jsonHost lostPause).files.read (jsonHost lostPause).working
      (Path.ofString "c.json") = .ok (Text.Utf8.encode lostPause) := rfl
  refine ⟨_, { path := some (Path.ofString "c.json")
               source := { retryBackoffSeconds := Number.nearestFloat 1 5 } }, hread, rfl, rfl, ?_⟩
  rw [exec_load_of_read hfile, hbytes]
  exact congrArg (·, jsonHost lostPause) hload

end SchemaPages.Settings
