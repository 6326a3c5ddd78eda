import SchemaPages.Proofs.Settings.Choices
import SchemaPages.Proofs.Settings.Refusal
import SchemaPages.Proofs.Settings.Template
import SchemaPages.Proofs.Yaml.Values

/-!
# Configuration files that break a call

What a check of a configuration does not accept is refused with an error that is reported. What is
done around the checks can fail as well, and nobody deals with that: finding out whether there is
something at the path, reading it, decoding it, evaluating the scalars of the document, resolving a
path with NUL, and turning a great integer into a float. `Breaks` says which files do this and how,
and loading a configuration breaks down on these files only and in this way
(`exec_load_eq_broken_iff`).
-/

namespace SchemaPages.Settings

open Files (Location Path)
open Host (Attempt Breakdown State)
open Introspection (SourceSettings)
open Yaml (Value)

variable {working : Location} {path : Path} {value : Value} {text : String} {before : State}
  {cause : Breakdown}

/-- The values that break their check, and how: a path that is to be resolved holds NUL, or the
pause is an integer beyond all floats, and all that is looked at before is accepted. -/
inductive BreaksCheck (working : Location) (base : Path) : Value → Breakdown → Prop
  | source {content source : Section} (hsection : sectionOf "source" content = .ok source)
      (h : NamesNul source) : BreaksCheck working base (.mapping content) .nul
  | pause {content source : Section} (hsection : sectionOf "source" content = .ok source)
      (h : Overflows working base source) :
      BreaksCheck working base (.mapping content) (.tooLarge Number.tooLargeForFloat)
  | output {content output : Section} {settings : SourceSettings}
      (hsource : sourceOf working base content = .ok settings)
      (hsection : sectionOf "output" content = .ok output) (h : WritesToNul output) :
      BreaksCheck working base (.mapping content) .nul

/-- An empty content has neither a path nor a pause. -/
theorem not_breaksCheck_nil {base : Path} : ¬ BreaksCheck working base (.mapping []) cause := by
  intro h
  cases h with
  | source hsection h =>
    cases hsection
    obtain ⟨_, _, _, _, ⟨⟩, -, ⟨_, ⟨⟩, -⟩ | ⟨_, ⟨⟩, -⟩⟩ := h
  | pause hsection h =>
    cases hsection
    obtain ⟨_, _, ⟨⟩, -⟩ := h
  | output _ hsection h =>
    cases hsection
    obtain ⟨_, _, ⟨⟩, -⟩ := h

/-- A content is broken off in its source or in its output. -/
theorem content_eq_broken_iff {content : Section} :
    (do
      let source ← sourceOf working path.parent content
      let output ← outputOf working path.parent content
      return { path := some path, source, output } : Checked Configuration) =
        .error (.broken cause) ↔ BreaksCheck working path.parent (.mapping content) cause := by
  rw [bind_eq_broken_iff, sourceOf_eq_broken_iff]
  constructor
  · rintro (⟨source, hsection, ⟨h, rfl⟩ | ⟨h, rfl⟩⟩ | ⟨settings, hsource, h⟩)
    · exact .source hsection h
    · exact .pause hsection h
    · rw [bind_eq_broken_iff, outputOf_eq_broken_iff] at h
      rcases h with ⟨⟨output, hsection, h⟩, rfl⟩ | ⟨output, -, h⟩
      · exact .output hsource hsection h
      · cases h
  · intro h
    cases h with
    | source hsection h => exact .inl ⟨_, hsection, .inl ⟨h, rfl⟩⟩
    | pause hsection h => exact .inl ⟨_, hsection, .inr ⟨h, rfl⟩⟩
    | output hsource hsection h =>
      refine .inr ⟨_, hsource, bind_eq_broken_iff.mpr (.inl ?_)⟩
      exact outputOf_eq_broken_iff.mpr ⟨⟨_, hsection, h⟩, rfl⟩

/-- Only a path and the pause break the check of a value. -/
theorem ofValue_eq_broken_iff :
    Configuration.ofValue working path value = .error (.broken cause) ↔
      BreaksCheck working path.parent value cause := by
  have hrefused : ∀ error : Error,
      (refuse error : Checked Configuration) ≠ .error (.broken cause) := fun error =>
    refuses_refuse error cause
  cases value with
  | scalar value =>
    cases value with
    | null =>
      refine iff_of_false (fun h => ?_) nofun
      have hnil : BreaksCheck working path.parent (.mapping []) cause :=
        content_eq_broken_iff.mp h
      exact not_breaksCheck_nil hnil
    | _ => exact iff_of_false (hrefused .rootNotMapping) nofun
  | mapping entries => exact content_eq_broken_iff
  | _ => exact iff_of_false (hrefused .rootNotMapping) nofun

/-- Whether a path leads to a file with a text. -/
def Holds (before : State) (path : Path) (text : String) : Prop :=
  ∃ bytes, before.files.read before.working path = .ok bytes ∧
    Introspection.textOfBytes bytes = .ok text

/-- A path with a name that a file can have, where a text that the file holds is a modest document.
-/
structure Modest (before : State) (pathText : String) : Prop where
  named : '\x00' ∉ pathText.toList
  content : ∀ text, Holds before (Path.ofString pathText) text → Yaml.Modest text

/-- The files on which loading a configuration breaks down, and how: a name in the path is too long,
the path leads to a directory, what is in the file is no text, a scalar of the document has no value
or is too large, a default value leads back to itself, or the value of the document breaks its
check. -/
inductive Breaks (before : State) (path : Path) : Breakdown → Prop
  | name (h : before.files.status before.working path = .error .nameTooLong) :
      Breaks before path (.files ⟨.nameTooLong, path.text⟩)
  | directory (h : before.files.status before.working path = .ok .directory) :
      Breaks before path (.files ⟨.isDirectory, path.text⟩)
  | notText {bytes : Text.Bytes} {fault : Text.Utf8.Fault}
      (hread : before.files.read before.working path = .ok bytes)
      (h : Introspection.textOfBytes bytes = .error fault) :
      Breaks before path (.notUtf8 fault)
  | noValue {text message : String} (hholds : Holds before path text)
      (h : Yaml.load settingDepth text = .error (.noValue message)) :
      Breaks before path (.noValue message)
  | tooLarge {text message : String} (hholds : Holds before path text)
      (h : Yaml.load settingDepth text = .error (.tooLarge message)) :
      Breaks before path (.tooLarge message)
  | endless {text : String} (hholds : Holds before path text)
      (h : Yaml.load settingDepth text = .error .endless) :
      Breaks before path .endless
  | check {text : String} {value : Value} {cause : Breakdown} (hholds : Holds before path text)
      (hload : Yaml.load settingDepth text = .ok value)
      (h : BreaksCheck before.working path.parent value cause) :
      Breaks before path cause

/-- What a breakdown says of a value that does not exist is a fault that a document can have. -/
theorem Breaks.explained_noValue {message : String} (h : Breaks before path (.noValue message)) :
    (Yaml.Fault.noValue message).Explained := by
  cases h with
  | noValue _ hload => exact Yaml.explains_load _ _ _ hload
  | check _ _ h => cases h

theorem Breaks.explained_tooLarge {message : String} (h : Breaks before path (.tooLarge message)) :
    (Yaml.Fault.tooLarge message).Explained := by
  cases h with
  | tooLarge _ hload => exact Yaml.explains_load _ _ _ hload
  | check _ _ h =>
    cases h with
    | pause _ h =>
      obtain ⟨n, _, _, hbound, _⟩ := h
      have hnonneg : ¬ n < 0 := by omega
      exact .integerTooLarge ((floatOfInt_eq_none_iff hnonneg).mpr hbound)

theorem Breaks.explained_endless (h : Breaks before path .endless) :
    Yaml.Fault.endless.Explained := by
  cases h with
  | endless _ hload => exact Yaml.explains_load _ _ _ hload
  | check _ _ h => cases h

theorem Holds.status (h : Holds before path text) :
    before.files.status before.working path = .ok .file := by
  obtain ⟨bytes, hread, -⟩ := h
  exact Files.Tree.status_of_read hread

/-- There is one text in a file. -/
theorem Holds.unique {other : String} (h : Holds before path text)
    (hother : Holds before path other) : text = other := by
  obtain ⟨bytes, hread, htext⟩ := h
  obtain ⟨_, hread', htext'⟩ := hother
  cases hread.symm.trans hread'
  exact Except.ok.inj (htext.symm.trans htext')

/-- What is there but no file breaks the call itself, and so does a name that is too long. -/
theorem breaks_iff_of_status (hstatus : before.files.status before.working path ≠ .ok .file) :
    Breaks before path cause ↔
      before.files.status before.working path = .error .nameTooLong ∧
          cause = .files ⟨.nameTooLong, path.text⟩ ∨
        before.files.status before.working path = .ok .directory ∧
          cause = .files ⟨.isDirectory, path.text⟩ := by
  constructor
  · intro h
    cases h with
    | name h => exact .inl ⟨h, rfl⟩
    | directory h => exact .inr ⟨h, rfl⟩
    | notText hread => exact absurd (Files.Tree.status_of_read hread) hstatus
    | noValue hholds | tooLarge hholds | endless hholds | check hholds =>
      exact absurd hholds.status hstatus
  · rintro (⟨h, rfl⟩ | ⟨h, rfl⟩)
    · exact .name h
    · exact .directory h

/-- Bytes that are no text break the call as such. -/
theorem breaks_iff_of_notText {bytes : Text.Bytes} {fault : Text.Utf8.Fault}
    (hread : before.files.read before.working path = .ok bytes)
    (htext : Introspection.textOfBytes bytes = .error fault) :
    Breaks before path cause ↔ cause = .notUtf8 fault := by
  have hnone : ∀ text, ¬ Holds before path text := by
    rintro text ⟨_, hread', htext'⟩
    cases hread.symm.trans hread'
    cases htext.symm.trans htext'
  have hstatus := Files.Tree.status_of_read hread
  constructor
  · intro h
    cases h with
    | name h => cases h.symm.trans hstatus
    | directory h => cases h.symm.trans hstatus
    | notText hread' htext' =>
      cases hread.symm.trans hread'
      cases htext.symm.trans htext'
      rfl
    | noValue hholds | tooLarge hholds | endless hholds | check hholds =>
      exact absurd hholds (hnone _)
  · rintro rfl
    exact .notText hread htext

/-- What breaks the check of a text is a fault of its document or its value. -/
theorem breaks_iff_of_holds (hholds : Holds before path text) :
    Breaks before path cause ↔
      Configuration.ofText before.working path text = .error (.broken cause) := by
  constructor
  · intro h
    cases h with
    | name h => cases h.symm.trans hholds.status
    | directory h => cases h.symm.trans hholds.status
    | notText hread h =>
      obtain ⟨bytes, hbytes, htext⟩ := hholds
      cases hread.symm.trans hbytes
      cases h.symm.trans htext
    | noValue hother h | tooLarge hother h | endless hother h =>
      obtain rfl := hholds.unique hother
      rw [Configuration.ofText, h]
      rfl
    | check hother hload h =>
      obtain rfl := hholds.unique hother
      rw [Configuration.ofText, hload]
      exact ofValue_eq_broken_iff.mpr h
  · intro h
    rw [Configuration.ofText] at h
    rcases hload : Yaml.load settingDepth text with (_ | message | message | _) | value <;>
      rw [hload] at h
    · cases h
    · cases h
      exact .noValue hholds hload
    · cases h
      exact .tooLarge hholds hload
    · cases h
      exact .endless hholds hload
    · exact .check hholds hload (ofValue_eq_broken_iff.mp h)

/-- Where nothing can be read, loading ends before the text. -/
theorem exec_load_of_status {pathText : String}
    (h : before.files.status before.working (Path.ofString pathText) ≠ .ok .file) :
    (Configuration.load pathText).exec before =
      (match before.files.status before.working (Path.ofString pathText) with
        | .ok _ => .error (.broken (.files ⟨.isDirectory, (Path.ofString pathText).text⟩))
        | .error .nameTooLong =>
          .error (.broken (.files ⟨.nameTooLong, (Path.ofString pathText).text⟩))
        | .error _ => .error (.reported (.fileMissing (Path.ofString pathText))), before) := by
  have hthere := exec_isThere (ε := Error) (Path.ofString pathText) before
  rw [Configuration.load]
  rcases hstatus : before.files.status before.working (Path.ofString pathText) with
    reason | _ | _ <;> rw [hstatus] at hthere
  · cases reason with
    | nameTooLong => exact Attempt.exec_bind_of_error hthere _
    | _ => exact Attempt.exec_bind_of_ok hthere _
  · exact absurd hstatus h
  · rw [Attempt.exec_bind_of_ok hthere]
    simp only [Bool.not_true, Bool.false_eq_true, if_false, Attempt.exec_request_bind, State.answer,
      Files.Tree.read_of_status_directory hstatus]
    rfl

/-- **Loading a configuration breaks down on certain files only.** Whatever the host holds, loading
a configuration fails with a breakdown exactly on the files that `Breaks` lists, and with the cause
that it gives; in all other cases a configuration is loaded or an error reported. -/
theorem exec_load_eq_broken_iff {pathText : String} {after : State} :
    (Configuration.load pathText).exec before = (.error (.broken cause), after) ↔
      Breaks before (Path.ofString pathText) cause ∧ after = before := by
  by_cases hfile : before.files.status before.working (Path.ofString pathText) = .ok .file
  · obtain ⟨bytes, hread⟩ := Files.Tree.exists_read_of_status hfile
    rw [exec_load_of_read hread]
    rcases htext : Introspection.textOfBytes bytes with fault | text
    · rw [breaks_iff_of_notText hread htext]
      simp [eq_comm]
    · rw [breaks_iff_of_holds ⟨bytes, hread, htext⟩]
      simp [eq_comm]
  · rw [exec_load_of_status hfile, breaks_iff_of_status hfile]
    rcases hstatus : before.files.status before.working (Path.ofString pathText) with
      reason | kind
    · cases reason <;> simp [eq_comm]
    · cases kind with
      | file => exact absurd hstatus hfile
      | directory => simp [eq_comm]

end SchemaPages.Settings
