import SchemaPages.Proofs.Files.Resolution
import SchemaPages.Proofs.Settings.Loaded

/-!
# How a configuration file is addressed

The path of a configuration file has two parts in what is loaded: it says where the file is, and the
paths in the file are taken from the directory of that path. Both depend only on the place of the
file: two paths to one file read the same text (`Files.Tree.read_of_locate_eq`), and although each
is cut as it is written, the paths in the file are taken from the directory that the file is in
(`resolvedPath_eq`). So the settings that are loaded are the same, or loading fails for the same
reason (`exec_load_same_file`).
-/

namespace SchemaPages.Settings

open Files (Location Path)
open Host (State)
open Introspection (SourceSettings)
open Yaml (Value)

variable {working directory : Location} {base path other : Path} {content : Section} {value : Value}
  {label name : String} {settings : SourceSettings} {output : OutputSettings}
  {configuration : Configuration} {before : State}

/-! ### Paths in a file -/

/-- Whether a path is the one that a text means in a directory: the path that the text writes, if
that starts at the root; else the path from the root that it resolves to, with no way back to a
parent in it. -/
structure Means (directory : Location) (text : String) (path : Path) : Prop where
  absolute : path.isAbsolute
  kept : (Path.ofString text).isAbsolute = true → path = Path.ofString text
  resolved : (Path.ofString text).isAbsolute = false →
    path = (Path.ofString text).resolve directory ∧ Path.parentSegment ∉ path.segments

/-- The paths in a file are taken from the place that the path of its directory leads to. -/
theorem resolvedPath_eq (working : Location) (base : Path) (text : String) :
    resolvedPath working base text =
      if (Path.ofString text).isAbsolute then .ok (Path.ofString text)
      else if '\x00' ∈ text.toList then .error (.broken .nul)
      else .ok ((Path.ofString text).resolve (base.locate working)) := by
  rw [resolvedPath]
  split
  · rfl
  · next hrelative => rw [Path.resolve_join (Bool.eq_false_iff.mpr hrelative) working base]

/-- It does not matter how the directory is addressed. -/
theorem pathSetting_congr (h : base.locate working = other.locate working) :
    pathSetting working base = pathSetting working other := by
  funext text
  cases text with
  | none => rfl
  | some text => rw [pathSetting, pathSetting, resolvedPath_eq, resolvedPath_eq, h]

theorem means_of_resolvedPath (hnames : Path.parentSegment ∉ working) {text : String}
    (h : resolvedPath working base text = .ok path) : Means (base.locate working) text path := by
  have hdirectory : Path.parentSegment ∉ base.locate working :=
    Path.parentSegment_notMem_resolve hnames base
  rw [resolvedPath_eq] at h
  split at h
  · next habsolute =>
    cases h
    exact ⟨habsolute, fun _ => rfl,
      fun hrelative => Bool.noConfusion (habsolute.symm.trans hrelative)⟩
  · next hrelative =>
    split at h
    · cases h
    · cases h
      exact ⟨rfl, fun habsolute => absurd habsolute hrelative,
        fun _ => ⟨rfl, Path.parentSegment_notMem_resolve hdirectory _⟩⟩

/-- A path that is set is the one that its text means. -/
theorem means_of_pathSetting (hnames : Path.parentSegment ∉ working) {text : Option String}
    {found : Option Path} (h : pathSetting working base text = .ok found) :
    Option.Rel (Means (base.locate working)) text found := by
  cases text with
  | none =>
    cases h
    exact .none
  | some text =>
    obtain ⟨path, hpath, rfl⟩ := map_eq_ok_iff.mp h
    exact .some (means_of_resolvedPath hnames hpath)

/-! ### Settings -/

/-- The text of a setting, without the blanks around it, unless nothing is left. -/
def textIn (name : String) (content : Section) : Option String :=
  ((setting? name content).bind Value.text?).bind trimmed?

theorem eq_of_textSetting {text : Option String} (h : textSetting label name content = .ok text) :
    text = textIn name content := by
  rw [textSetting] at h
  rw [textIn]
  split at h
  · next hnone =>
    rw [hnone]
    exact (Except.ok.inj h).symm
  · next hfound =>
    rw [hfound]
    exact (Except.ok.inj h).symm
  · cases h

/-- The paths of a source are those of its section, each taken from the directory. -/
theorem paths_of_sourceOf (h : sourceOf working base content = .ok settings) :
    ∃ source, sectionOf "source" content = .ok source ∧
      pathSetting working base (textIn "json" source) = .ok settings.jsonPath ∧
      pathSetting working base (textIn "schema" source) = .ok settings.schemaPath := by
  simp only [sourceOf, bind_eq_ok_iff] at h
  obtain ⟨source, hsource, url, -, json, hjson, schema, hschema, h⟩ := h
  split at h
  · cases h
  · simp only [bind_eq_ok_iff] at h
    obtain ⟨headers, -, jsonPath, hjsonPath, schemaPath, hschemaPath, seconds, -, retries, -,
      backoff, -, h⟩ := h
    cases h
    exact ⟨source, hsource, eq_of_textSetting hjson ▸ hjsonPath,
      eq_of_textSetting hschema ▸ hschemaPath⟩

theorem path_of_outputOf (h : outputOf working base content = .ok output) :
    ∃ written, sectionOf "output" content = .ok written ∧
      pathSetting working base (textIn "out_dir" written) = .ok output.outDir := by
  simp only [outputOf, bind_eq_ok_iff] at h
  obtain ⟨written, hsection, directory, hdirectory, front, -, path, hpath, h⟩ := h
  cases h
  exact ⟨written, hsection, eq_of_textSetting hdirectory ▸ hpath⟩

/-- The paths of a configuration are those that its texts mean in a directory. -/
structure TakenFrom (directory : Location) (value : Value) (configuration : Configuration) :
    Prop where
  json : Option.Rel (Means directory) (textIn "json" (sectionIn "source" value))
    configuration.source.jsonPath
  schema : Option.Rel (Means directory) (textIn "schema" (sectionIn "source" value))
    configuration.source.schemaPath
  outDir : Option.Rel (Means directory) (textIn "out_dir" (sectionIn "output" value))
    configuration.output.outDir

theorem takenFrom_of_ofValue (hnames : Path.parentSegment ∉ working)
    (h : Configuration.ofValue working path value = .ok configuration) :
    TakenFrom (path.parent.locate working) value configuration := by
  have hcontent : ∃ content, sourceOf working path.parent content = .ok configuration.source ∧
      outputOf working path.parent content = .ok configuration.output ∧
      ∀ name, ((setting? name content).bind Value.entries?).getD [] = sectionIn name value := by
    rw [Configuration.ofValue.eq_def] at h
    split at h <;> simp only [bind_eq_ok_iff] at h <;>
      obtain ⟨content, hvalue, source, hsource, output, houtput, h⟩ := h <;> cases h <;>
      cases hvalue <;> exact ⟨_, hsource, houtput, fun _ => rfl⟩
  obtain ⟨content, hsource, houtput, hsections⟩ := hcontent
  obtain ⟨source, hfound, hjson, hschema⟩ := paths_of_sourceOf hsource
  obtain ⟨written, hfound', hdirectory⟩ := path_of_outputOf houtput
  rw [eq_of_sectionOf hfound, hsections] at hjson hschema
  rw [eq_of_sectionOf hfound', hsections] at hdirectory
  exact ⟨means_of_pathSetting hnames hjson, means_of_pathSetting hnames hschema,
    means_of_pathSetting hnames hdirectory⟩

/-! ### Files -/

/-- The same configuration in a file with another path. -/
def Configuration.withPath (configuration : Configuration) (path : Path) : Configuration :=
  { configuration with path := some path }

/-- A value is checked in the same way wherever its file is said to be, if that is in the same
directory. -/
theorem ofValue_withPath (h : path.parent.locate working = other.parent.locate working)
    (value : Value) :
    Configuration.ofValue working other value =
      (Configuration.ofValue working path value).map fun configuration =>
        configuration.withPath other := by
  have hsource : ∀ content,
      sourceOf working other.parent content = sourceOf working path.parent content := by
    intro content
    simp only [sourceOf, pathSetting_congr h]
  have houtput : ∀ content,
      outputOf working other.parent content = outputOf working path.parent content := by
    intro content
    simp only [outputOf, pathSetting_congr h]
  have hcontent : ∀ content : Section,
      (do
        let source ← sourceOf working other.parent content
        let output ← outputOf working other.parent content
        return { path := some other, source, output } : Checked Configuration) =
      (do
        let source ← sourceOf working path.parent content
        let output ← outputOf working path.parent content
        return { path := some path, source, output } : Checked Configuration).map
          fun configuration => configuration.withPath other := by
    intro content
    rw [hsource, houtput]
    rcases sourceOf working path.parent content with failed | source
    · rfl
    rcases outputOf working path.parent content with failed | output <;> rfl
  cases value with
  | scalar scalar =>
    cases scalar with
    | null => exact hcontent []
    | _ => rfl
  | mapping entries => exact hcontent entries
  | _ => rfl

theorem ofText_withPath (h : path.parent.locate working = other.parent.locate working)
    (text : String) :
    Configuration.ofText working other text =
      (Configuration.ofText working path text).map fun configuration =>
        configuration.withPath other := by
  rw [Configuration.ofText, Configuration.ofText]
  rcases (Yaml.load settingDepth text).mapError documentFailure with failed | value
  · rfl
  · exact ofValue_withPath h value

/-- **It does not matter how a configuration file is addressed.** Two paths that exist and resolve
to the same file lead to the same settings of the source and the output, or loading fails for both.
The paths among the settings are those that the texts in the file mean in the directory that the
file is in: the directory of the path that both paths resolve to. -/
theorem exec_load_same_file {first second : String} (hrooted : before.files.Rooted before.working)
    (hfirst : before.files.status before.working (Path.ofString first) = .ok .file)
    (hsecond : before.files.status before.working (Path.ofString second) = .ok .file)
    (hsame : (Path.ofString first).resolve before.working =
      (Path.ofString second).resolve before.working) :
    (∃ failed, (Configuration.load first).exec before = (.error failed, before) ∧
        (Configuration.load second).exec before = (.error failed, before)) ∨
      ∃ text value configuration configuration',
        Holds before (Path.ofString first) text ∧ Yaml.load settingDepth text = .ok value ∧
          (Configuration.load first).exec before = (.ok configuration, before) ∧
          (Configuration.load second).exec before = (.ok configuration', before) ∧
          configuration.source = configuration'.source ∧
          configuration.output = configuration'.output ∧
          TakenFrom ((Path.ofString first).resolve before.working).parent.segments value
            configuration := by
  rw [Path.resolve_eq_iff] at hsame
  obtain ⟨bytes, hread⟩ := Files.Tree.exists_read_of_status hfirst
  have hread' := Files.Tree.read_of_locate_eq hread hsecond hsame
  have hdirectory : (Path.ofString first).parent.locate before.working =
      ((Path.ofString first).resolve before.working).parent.segments :=
    Files.Tree.locate_parent_of_status hrooted hfirst
  have hparents : (Path.ofString first).parent.locate before.working =
      (Path.ofString second).parent.locate before.working := by
    rw [Files.Tree.locate_parent_of_status hrooted hfirst,
      Files.Tree.locate_parent_of_status hrooted hsecond, hsame]
  rw [exec_load_of_read hread, exec_load_of_read hread']
  rcases htext : Introspection.textOfBytes bytes with fault | text
  · exact .inl ⟨_, rfl, rfl⟩
  dsimp only
  rw [ofText_withPath hparents]
  rcases hchecked : Configuration.ofText before.working (Path.ofString first) text with
    failed | configuration
  · exact .inl ⟨failed, rfl, rfl⟩
  · have hloaded := hchecked
    rw [Configuration.ofText, bind_eq_ok_iff] at hloaded
    obtain ⟨value, hload, hvalue⟩ := hloaded
    have hvalue' : Yaml.load settingDepth text = .ok value := by
      rcases hparse : Yaml.load settingDepth text with fault | other <;> rw [hparse] at hload <;>
        cases hload
      rfl
    refine .inr ⟨text, value, configuration, configuration.withPath (Path.ofString second),
      ⟨bytes, hread, htext⟩, hvalue', rfl, rfl, rfl, rfl, ?_⟩
    rw [← hdirectory]
    exact takenFrom_of_ofValue hrooted.names hvalue

/-- A host with a configuration in a directory beside the working directory. -/
def addressedHost : State :=
  { files := ⟨[(["home"], .directory), (["home", "work"], .directory),
      (["home", "conf"], .directory),
      (["home", "conf", "pets.yml"], .file (Text.Utf8.encode
        "source:\n  json: ../in/./pets.json\noutput:\n  out_dir: docs/../pages\n"))]⟩
    working := ["home", "work"], input := [], replies := [], sent := [], pauses := [], notes := [] }

theorem exec_load_same_file_beside :
    addressedHost.files.Rooted addressedHost.working ∧
      addressedHost.files.status addressedHost.working
        (Path.ofString "../work/../conf/./pets.yml") = .ok .file ∧
      addressedHost.files.status addressedHost.working
        (Path.ofString "/home/conf/pets.yml") = .ok .file ∧
      ∃ configuration configuration',
        (Configuration.load "../work/../conf/./pets.yml").exec addressedHost =
            (.ok configuration, addressedHost) ∧
          (Configuration.load "/home/conf/pets.yml").exec addressedHost =
            (.ok configuration', addressedHost) ∧
          configuration.source = configuration'.source ∧
          configuration.output = configuration'.output ∧
          configuration.source.jsonPath = some (Path.ofString "/home/in/pets.json") ∧
          configuration.output.outDir = some (Path.ofString "/home/conf/pages") := by
  have hrooted : addressedHost.files.Rooted addressedHost.working := by decide
  have hfirst : addressedHost.files.status addressedHost.working
      (Path.ofString "../work/../conf/./pets.yml") = .ok .file := by decide
  have hsecond : addressedHost.files.status addressedHost.working
      (Path.ofString "/home/conf/pets.yml") = .ok .file := by decide
  have hloaded : (((Configuration.load "/home/conf/pets.yml").exec addressedHost).1.map
      fun configuration => (configuration.source.jsonPath, configuration.output.outDir)).toOption =
        some (some (Path.ofString "/home/in/pets.json"),
          some (Path.ofString "/home/conf/pages")) := by
    decide +kernel
  refine ⟨hrooted, hfirst, hsecond, ?_⟩
  rcases exec_load_same_file hrooted hfirst hsecond (by decide) with
    ⟨failed, -, hfailed⟩ |
    ⟨-, -, configuration, configuration', -, -, hok, hok', hsource, houtput, -⟩
  · rw [hfailed] at hloaded
    cases hloaded
  · rw [hok'] at hloaded
    have hpaths := Prod.mk.inj (Option.some.inj hloaded)
    exact ⟨configuration, configuration', hok, hok', hsource, houtput,
      hsource ▸ hpaths.1, houtput ▸ hpaths.2⟩

end SchemaPages.Settings
