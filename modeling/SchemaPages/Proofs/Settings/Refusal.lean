import SchemaPages.Proofs.Settings.Source

/-!
# Checks that refuse

A check of a setting that fails refuses the configuration, with an error that is reported
(`Refuses`). There are two exceptions. A number that is given as an integer is turned into a float,
and that breaks down if the integer is beyond all floats; only the pause between two attempts is
such a number, and it is looked at last. And a path that does not start at the root is resolved,
which breaks down if it holds NUL; the paths of a source are looked at behind its headers. So it is
known which sections break their check, and how (`sourceOf_eq_broken_iff`,
`outputOf_eq_broken_iff`).
-/

namespace SchemaPages.Settings

open Files (Location Path)
open Host (Breakdown)
open Introspection (SourceSettings)
open Yaml (Value Scalar)

/-- Whether a check that fails refuses the configuration. -/
def Refuses {α : Type} (outcome : Checked α) : Prop :=
  ∀ cause, outcome ≠ .error (.broken cause)

section

variable {α β : Type} {outcome : Checked α} {next : α → Checked β} {cause : Breakdown}

theorem refuses_ok (value : α) : Refuses (.ok value) :=
  fun _ h => nomatch h

theorem refuses_refuse (error : Error) : Refuses (refuse error : Checked α) := by
  intro cause h
  cases h

/-- A sequence of checks breaks down in its first part or in the rest. -/
theorem bind_eq_broken_iff :
    (outcome >>= next) = .error (.broken cause) ↔
      outcome = .error (.broken cause) ∨
        ∃ first, outcome = .ok first ∧ next first = .error (.broken cause) := by
  cases outcome with
  | error failed => simp [bind, Except.bind]
  | ok first => simp [bind, Except.bind]

theorem Refuses.bind (h : Refuses outcome)
    (hnext : ∀ value, outcome = .ok value → Refuses (next value)) : Refuses (outcome >>= next) := by
  intro cause hbroken
  rcases bind_eq_broken_iff.mp hbroken with hfirst | ⟨value, hvalue, hrest⟩
  · exact h cause hfirst
  · exact hnext value hvalue cause hrest

theorem Refuses.map (h : Refuses outcome) (f : α → β) : Refuses (f <$> outcome) := by
  cases outcome with
  | error failed => exact fun cause hbroken => h cause (by cases hbroken; rfl)
  | ok value => exact refuses_ok (f value)

end

section

variable {label name : String} {content : Section}

theorem refuses_sectionOf (name : String) (content : Section) :
    Refuses (sectionOf name content) := by
  rw [sectionOf]
  split
  · exact refuses_ok _
  · exact refuses_ok _
  · exact refuses_refuse _

theorem refuses_textSetting (label name : String) (content : Section) :
    Refuses (textSetting label name content) := by
  rw [textSetting]
  split
  · exact refuses_ok _
  · exact refuses_ok _
  · exact refuses_refuse _

theorem refuses_naturalSetting (label name : String) (default : Int) (content : Section) :
    Refuses (naturalSetting label name default content) := by
  rw [naturalSetting]
  split
  · exact refuses_ok _
  · split
    · exact refuses_refuse _
    · exact refuses_ok _
  · exact refuses_refuse _

theorem refuses_positiveSetting (label name : String) (default : Int) (content : Section) :
    Refuses (positiveSetting label name default content) := by
  refine (refuses_naturalSetting label name default content).bind fun n _ => ?_
  split
  · exact refuses_refuse _
  · exact refuses_ok _

theorem refuses_headersOfEntries (entries : Section) : Refuses (headersOfEntries entries) := by
  fun_induction headersOfEntries entries with
  | case1 => exact refuses_ok _
  | case2 | case4 | case5 => exact refuses_refuse _
  | case3 rest name trimmedName hname value ih => exact ih.map _

theorem refuses_headersOfItems (items : List Value) : Refuses (headersOfItems items) := by
  fun_induction headersOfItems items with
  | case1 => exact refuses_ok _
  | case2 | case4 => exact refuses_refuse _
  | case3 text rest header hparse ih => exact ih.map _

theorem refuses_headersSetting (content : Section) : Refuses (headersSetting content) := by
  rw [headersSetting]
  split
  · exact refuses_ok _
  · exact refuses_headersOfEntries _
  · exact refuses_headersOfItems _
  · split
    · exact refuses_ok _
    · exact refuses_refuse _
  · exact refuses_refuse _

/-! ### Paths -/

/-- Whether a text means a path that would have to be resolved and holds NUL. -/
def Unresolvable (text : String) : Prop :=
  (Path.ofString text).isAbsolute = false ∧ '\x00' ∈ text.toList

theorem resolvedPath_eq_broken_iff {working : Location} {base : Path} {text : String}
    {cause : Breakdown} :
    resolvedPath working base text = .error (.broken cause) ↔ Unresolvable text ∧ cause = .nul := by
  rw [resolvedPath, Unresolvable]
  cases (Path.ofString text).isAbsolute with
  | true => simp
  | false => by_cases hnul : '\x00' ∈ text.toList <;> simp [hnul, eq_comm]

/-- Only such a path breaks a check. -/
theorem pathSetting_eq_broken_iff {working : Location} {base : Path} {text : Option String}
    {cause : Breakdown} :
    pathSetting working base text = .error (.broken cause) ↔
      (∃ path ∈ text, Unresolvable path) ∧ cause = .nul := by
  cases text with
  | none => exact iff_of_false (fun h => nomatch h) (by simp)
  | some text =>
    have hmap : pathSetting working base (some text) = .error (.broken cause) ↔
        resolvedPath working base text = .error (.broken cause) := by
      rw [pathSetting]
      rcases resolvedPath working base text with failed | path <;>
        simp [Functor.map, Except.map]
    rw [hmap, resolvedPath_eq_broken_iff]
    simp

/-! ### Great integers -/

/-- An integer that is not negative is a float unless it lies beyond all of them. -/
theorem floatOfInt_eq_none_iff {n : Int} (h : ¬ n < 0) :
    Number.floatOfInt n = none ↔ (Number.floatBound : Int) ≤ n := by
  have hsize : Number.floatBound ≤ n.natAbs ↔ (Number.floatBound : Int) ≤ n := by omega
  rw [Number.floatOfInt, ← hsize]
  split
  · next hlarge => exact iff_of_true rfl hlarge
  · next hsmall => exact iff_of_false (Option.some_ne_none _) hsmall

/-- A number breaks a check exactly if it is an integer beyond all floats. -/
theorem numberSetting_eq_broken_iff {default : Float} {cause : Breakdown} :
    numberSetting label name default content = .error (.broken cause) ↔
      ∃ n, Value.entry? name content = some (.scalar (.integer n)) ∧
        (Number.floatBound : Int) ≤ n ∧ cause = .tooLarge Number.tooLargeForFloat := by
  have hother : ∀ {outcome : Checked Float} {found : Option Value}, Refuses outcome →
      (∀ n, found ≠ some (.scalar (.integer n))) →
      (outcome = .error (.broken cause) ↔ ∃ n, found = some (.scalar (.integer n)) ∧
        (Number.floatBound : Int) ≤ n ∧ cause = .tooLarge Number.tooLargeForFloat) :=
    fun h hfound => iff_of_false (h cause) fun ⟨n, hn, _⟩ => hfound n hn
  rw [numberSetting]
  -- what is found decides; the section it was found in is of no account from here on
  generalize Value.entry? name content = found
  split
  · exact hother (refuses_ok _) (by simp)
  · next n =>
    simp only [Option.some.injEq, Value.scalar.injEq, Scalar.integer.injEq, exists_eq_left']
    split
    · next hneg =>
      refine iff_of_false (refuses_refuse _ cause) fun ⟨hbound, _⟩ => ?_
      omega
    · next hnonneg =>
      rw [← floatOfInt_eq_none_iff hnonneg]
      cases Number.floatOfInt n <;> simp [eq_comm]
  · split
    · exact hother (refuses_refuse _) (by simp)
    · exact hother (refuses_ok _) (by simp)
  · next hinteger hfloat =>
    exact hother (refuses_refuse _) fun n hn => hinteger n (Option.some.inj hn)

/-- The setting of the pause between two attempts. -/
def backoffSetting : String := "retry_backoff_seconds"

theorem beq_text_iff {key : Scalar} {text : String} :
    (key == .text text) = true ↔ key = .text text := by
  cases key with
  | text other =>
    have hbeq : (Scalar.text other == .text text) = decide (other = text) := rfl
    simp [hbeq]
  | _ => exact iff_of_false (fun h => nomatch h) (fun h => nomatch h)

/-! ### Sections -/

/-- The sources that a section names, of which there must not be several. -/
def namedSources (source : Section) :
    Checked (Option String × Option String × Option String) := do
  let url ← textSetting "source" "url" source
  let json ← textSetting "source" "json" source
  let schema ← textSetting "source" "schema" source
  if 1 < ([url, json, schema].filter Option.isSome).length then refuse .severalSources
  else return (url, json, schema)

theorem refuses_namedSources (source : Section) : Refuses (namedSources source) := by
  refine (refuses_textSetting _ _ _).bind fun url _ => ?_
  refine (refuses_textSetting _ _ _).bind fun json _ => ?_
  refine (refuses_textSetting _ _ _).bind fun schema _ => ?_
  split
  · exact refuses_refuse _
  · exact refuses_ok _

/-- The settings of a section are looked at one after the other, the named sources first. -/
theorem sourceOf_eq_namedSources {working : Location} {base : Path} {source : Section}
    (hsource : sectionOf "source" content = .ok source) :
    sourceOf working base content = do
      let (url, json, schema) ← namedSources source
      let headers ← headersSetting source
      let jsonPath ← pathSetting working base json
      let schemaPath ← pathSetting working base schema
      let timeoutSeconds ← positiveSetting "source" "timeout_seconds" 30 source
      let maxRetries ← naturalSetting "source" "max_retries" 2 source
      let retryBackoffSeconds ← numberSetting "source" backoffSetting 0.5 source
      return { url, headers, jsonPath, schemaPath, timeoutSeconds, maxRetries,
               retryBackoffSeconds } := by
  have hfound : sectionOf "source" content = pure source := hsource
  simp only [sourceOf, hfound, pure_bind, namedSources, bind_assoc]
  apply bind_congr
  intro url
  apply bind_congr
  intro json
  apply bind_congr
  intro schema
  split <;> rfl

/-- The settings of a section up to its pause. -/
def beforePause (working : Location) (base : Path) (source : Section) :
    Checked (Float → SourceSettings) := do
  let (url, json, schema) ← namedSources source
  let headers ← headersSetting source
  let jsonPath ← pathSetting working base json
  let schemaPath ← pathSetting working base schema
  let timeoutSeconds ← positiveSetting "source" "timeout_seconds" 30 source
  let maxRetries ← naturalSetting "source" "max_retries" 2 source
  return fun retryBackoffSeconds =>
    { url, headers, jsonPath, schemaPath, timeoutSeconds, maxRetries, retryBackoffSeconds }

/-- The pause is looked at last. -/
theorem sourceOf_eq_beforePause {working : Location} {base : Path} {source : Section}
    (hsource : sectionOf "source" content = .ok source) :
    sourceOf working base content = do
      let settings ← beforePause working base source
      let pause ← numberSetting "source" backoffSetting 0.5 source
      return settings pause := by
  simp only [sourceOf_eq_namedSources hsource, beforePause, bind_assoc, pure_bind]

/-- Whether a section names a source by a path that cannot be resolved, and all that is looked at
before is accepted. -/
def NamesNul (source : Section) : Prop :=
  ∃ url json schema headers, namedSources source = .ok (url, json, schema) ∧
    headersSetting source = .ok headers ∧
      ((∃ path ∈ json, Unresolvable path) ∨ ∃ path ∈ schema, Unresolvable path)

/-- Not both paths are named. -/
theorem eq_none_of_namedSources {source : Section} {url json : Option String} {path : String}
    (h : namedSources source = .ok (url, json, some path)) : json = none := by
  simp only [namedSources, bind_eq_ok_iff] at h
  obtain ⟨_, -, _, -, _, -, h⟩ := h
  split at h
  · cases h
  · next hsingle =>
    cases h
    cases json with
    | none => rfl
    | some other => cases url <;> simp at hsingle

/-- Before the pause only such a path breaks a section. -/
theorem beforePause_eq_broken_iff {working : Location} {base : Path} {source : Section}
    {cause : Breakdown} :
    beforePause working base source = .error (.broken cause) ↔
      NamesNul source ∧ cause = .nul := by
  rw [beforePause, bind_eq_broken_iff, or_iff_right (refuses_namedSources source cause)]
  constructor
  · rintro ⟨⟨url, json, schema⟩, hnamed, h⟩
    rw [bind_eq_broken_iff, or_iff_right (refuses_headersSetting source cause)] at h
    obtain ⟨headers, hheaders, h⟩ := h
    rw [bind_eq_broken_iff, pathSetting_eq_broken_iff] at h
    rcases h with ⟨hjson, hcause⟩ | ⟨jsonPath, -, h⟩
    · exact ⟨⟨url, json, schema, headers, hnamed, hheaders, .inl hjson⟩, hcause⟩
    rw [bind_eq_broken_iff, pathSetting_eq_broken_iff] at h
    rcases h with ⟨hschema, hcause⟩ | ⟨schemaPath, -, h⟩
    · exact ⟨⟨url, json, schema, headers, hnamed, hheaders, .inr hschema⟩, hcause⟩
    -- the numbers that are left refuse the section if they fail
    · refine absurd h (Refuses.bind (refuses_positiveSetting _ _ _ _) (fun _ _ => ?_) cause)
      exact (refuses_naturalSetting _ _ _ _).bind fun _ _ => refuses_ok _
  · rintro ⟨⟨url, json, schema, headers, hnamed, hheaders, hpath⟩, rfl⟩
    refine ⟨(url, json, schema), hnamed, bind_eq_broken_iff.mpr (.inr ⟨headers, hheaders, ?_⟩)⟩
    rcases hpath with hjson | ⟨path, hschema, hpath⟩
    · exact bind_eq_broken_iff.mpr (.inl (pathSetting_eq_broken_iff.mpr ⟨hjson, rfl⟩))
    · obtain rfl : schema = some path := hschema
      obtain rfl := eq_none_of_namedSources hnamed
      refine bind_eq_broken_iff.mpr (.inr ⟨none, rfl, bind_eq_broken_iff.mpr (.inl ?_)⟩)
      exact pathSetting_eq_broken_iff.mpr ⟨⟨path, rfl, hpath⟩, rfl⟩

/-- Whether the pause is an integer beyond all floats, in a section that is accepted without it. -/
def Overflows (working : Location) (base : Path) (source : Section) : Prop :=
  ∃ n settings, Value.entry? backoffSetting source = some (.scalar (.integer n)) ∧
    (Number.floatBound : Int) ≤ n ∧ beforePause working base source = .ok settings

/-- The settings of the source break down exactly on such a path or such a pause. -/
theorem sourceOf_eq_broken_iff {working : Location} {base : Path} {cause : Breakdown} :
    sourceOf working base content = .error (.broken cause) ↔
      ∃ source, sectionOf "source" content = .ok source ∧
        (NamesNul source ∧ cause = .nul ∨
          Overflows working base source ∧ cause = .tooLarge Number.tooLargeForFloat) := by
  have hsource : ∀ {source}, sectionOf "source" content = .ok source →
      (sourceOf working base content = .error (.broken cause) ↔
        NamesNul source ∧ cause = .nul ∨
          Overflows working base source ∧ cause = .tooLarge Number.tooLargeForFloat) := by
    intro source hsource
    rw [sourceOf_eq_beforePause hsource, bind_eq_broken_iff, beforePause_eq_broken_iff]
    refine or_congr_right ⟨?_, ?_⟩
    · rintro ⟨settings, hsettings, h⟩
      rw [bind_eq_broken_iff, numberSetting_eq_broken_iff] at h
      rcases h with ⟨n, hn, hbound, hcause⟩ | ⟨pause, -, h⟩
      · exact ⟨⟨n, settings, hn, hbound, hsettings⟩, hcause⟩
      · cases h
    · rintro ⟨⟨n, settings, hn, hbound, hsettings⟩, hcause⟩
      exact ⟨settings, hsettings, bind_eq_broken_iff.mpr
        (.inl (numberSetting_eq_broken_iff.mpr ⟨n, hn, hbound, hcause⟩))⟩
  constructor
  · intro hbroken
    obtain ⟨source, hsection, -⟩ := (bind_eq_broken_iff.mp hbroken).resolve_left
      (refuses_sectionOf "source" content cause)
    exact ⟨source, hsection, (hsource hsection).mp hbroken⟩
  · rintro ⟨source, hsection, h⟩
    exact (hsource hsection).mpr h

/-- Whether a section names its directory by a path that cannot be resolved, and all that is looked
at before is accepted. -/
def WritesToNul (output : Section) : Prop :=
  ∃ directory frontMatter, textSetting "output" "out_dir" output = .ok (some directory) ∧
    textSetting "output" "front_matter" output = .ok frontMatter ∧ Unresolvable directory

/-- The settings of the output break down exactly on such a path. -/
theorem outputOf_eq_broken_iff {working : Location} {base : Path} {cause : Breakdown} :
    outputOf working base content = .error (.broken cause) ↔
      (∃ output, sectionOf "output" content = .ok output ∧ WritesToNul output) ∧ cause = .nul := by
  rw [outputOf, bind_eq_broken_iff, or_iff_right (refuses_sectionOf "output" content cause)]
  constructor
  · rintro ⟨output, hsection, h⟩
    rw [bind_eq_broken_iff, or_iff_right (refuses_textSetting _ _ _ cause)] at h
    obtain ⟨directory, hdirectory, h⟩ := h
    rw [bind_eq_broken_iff, or_iff_right (refuses_textSetting _ _ _ cause)] at h
    obtain ⟨frontMatter, hfront, h⟩ := h
    rw [bind_eq_broken_iff, pathSetting_eq_broken_iff] at h
    rcases h with ⟨⟨path, rfl, hpath⟩, hcause⟩ | ⟨path, -, h⟩
    · exact ⟨⟨output, hsection, path, frontMatter, hdirectory, hfront, hpath⟩, hcause⟩
    · cases h
  · rintro ⟨⟨output, hsection, directory, frontMatter, hdirectory, hfront, hpath⟩, rfl⟩
    refine ⟨output, hsection, bind_eq_broken_iff.mpr (.inr ⟨some directory, hdirectory, ?_⟩)⟩
    refine bind_eq_broken_iff.mpr (.inr ⟨frontMatter, hfront, bind_eq_broken_iff.mpr (.inl ?_)⟩)
    exact pathSetting_eq_broken_iff.mpr ⟨⟨directory, rfl, hpath⟩, rfl⟩

end

end SchemaPages.Settings
