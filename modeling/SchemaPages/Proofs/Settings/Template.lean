import SchemaPages.Proofs.Files.Tree
import SchemaPages.Proofs.Host.Attempt
import SchemaPages.Settings.Template

/-!
# Writing the template

The template goes to a new file or nowhere: either its file is the only difference that is made to
the host, or none is made (`exec_writeTemplate`).
-/

namespace SchemaPages.Settings

open Files (Path)
open Host (Attempt Failed State)

variable {text : String} {path : Path} {before after : State}

/-- Whether the only difference between two states of a host is a new file with the template, to
which a path leads. -/
structure AddsTemplate (path : Path) (before after : State) : Prop where
  files : before.files.AddsFile after.files (path.locate before.working)
    (Text.Utf8.encode template)
  rest : after = { before with files := after.files }

/-- To find out whether there is something at a path changes nothing. -/
theorem exec_isThere {ε : Type} (path : Path) (before : State) :
    (isThere path : Attempt (Failed ε) Bool).exec before =
      (match before.files.status before.working path with
        | .ok _ => .ok true
        | .error .nameTooLong => .error (.broken (.files ⟨.nameTooLong, path.text⟩))
        | .error _ => .ok false, before) := by
  rw [isThere, Attempt.exec_request_bind]
  simp only [State.answer]
  split <;> simp_all only [Attempt.exec_pure, Attempt.break, Attempt.exec_throw]

/-- Nothing is where a path leads, if it is found that nothing is there. -/
theorem missing_of_exec_isThere {ε : Type}
    (h : (isThere path : Attempt (Failed ε) Bool).exec before = (.ok false, after)) :
    ∀ kind, before.files.status before.working path ≠ .ok kind := by
  intro kind hstatus
  rw [exec_isThere, hstatus] at h
  cases h

theorem unchanged_of_exec_isThere {ε : Type} {result : Except (Failed ε) Bool}
    (h : (isThere path : Attempt (Failed ε) Bool).exec before = (result, after)) :
    after = before := by
  rw [exec_isThere] at h
  exact (congrArg Prod.snd h).symm

/-- The template is written to a new file, or nothing is done. -/
theorem exec_writeTemplate (text : String) (before : State) :
    (∃ after, (writeTemplate text).exec before =
        (.ok ((Path.ofString text).resolve before.working), after) ∧
      AddsTemplate (Path.ofString text) before after) ∨
    ∃ failed, (writeTemplate text).exec before = (.error failed, before) := by
  rw [writeTemplate]
  rcases hthere : (isThere (Path.ofString text) : Attempt (Failed TemplateError) Bool).exec before
    with ⟨failed | there, middle⟩ <;> obtain rfl := unchanged_of_exec_isThere hthere
  · exact .inr ⟨failed, Attempt.exec_bind_of_error hthere _⟩
  · rw [Attempt.exec_bind_of_ok hthere, Attempt.exec_request_bind]
    cases there with
    | true => exact .inr ⟨_, rfl⟩
    | false =>
      simp only [Bool.false_eq_true, if_false, Attempt.exec_request_bind, State.answer]
      rcases hwrite : middle.files.write middle.working (Path.ofString text)
        (Text.Utf8.encode template) with cause | files
      · exact .inr ⟨_, rfl⟩
      · refine .inl ⟨_, rfl, ?_, rfl⟩
        exact Files.Tree.addsFile_write hwrite (missing_of_exec_isThere hthere)

end SchemaPages.Settings
