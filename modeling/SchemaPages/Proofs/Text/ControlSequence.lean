import SchemaPages.Text.ControlSequence

/-!
# Control sequences within a line

A line feed is no part of a control sequence. So the lines of a text lose their control sequences
each on its own (`withoutControls_lines`).
-/

namespace SchemaPages.Text

variable {front : List Char}

theorem takeWhile_isParameter_append (front back : List Char) :
    (front ++ '\n' :: back).takeWhile isParameter = front.takeWhile isParameter := by
  induction front with
  | nil => rfl
  | cons c rest ih => rw [List.cons_append, List.takeWhile_cons, List.takeWhile_cons, ih]

theorem controlLength_of_ne {text : List Char} (h : ∀ rest, text ≠ '\x1b' :: '[' :: rest) :
    controlLength text = 0 := by
  unfold controlLength
  split
  · next rest => exact absurd rfl (h rest)
  · rfl

/-- What comes after a line feed does not belong to a control sequence in front of it. -/
theorem controlLength_append (front back : List Char) :
    controlLength (front ++ '\n' :: back) = controlLength front := by
  by_cases hopen : ∃ rest, front = '\x1b' :: '[' :: rest
  · obtain ⟨rest, rfl⟩ := hopen
    have hlength : (rest.takeWhile isParameter).length ≤ rest.length :=
      (List.takeWhile_prefix _).length_le
    have hhead : ((rest ++ '\n' :: back).drop (rest.takeWhile isParameter).length).head?.any
        Char.isAlpha = (rest.drop (rest.takeWhile isParameter).length).head?.any Char.isAlpha := by
      rw [List.drop_append_of_le_length hlength]
      cases rest.drop (rest.takeWhile isParameter).length <;> rfl
    simp only [List.cons_append, controlLength, takeWhile_isParameter_append, hhead]
  · -- A line feed opens no sequence, and neither does an escape character in front of it.
    have hfront : ∀ rest, front ≠ '\x1b' :: '[' :: rest := fun rest heq => hopen ⟨rest, heq⟩
    rw [controlLength_of_ne hfront]
    refine controlLength_of_ne fun rest heq => ?_
    rcases front with _ | ⟨c, _ | ⟨c', others⟩⟩ <;> cases heq
    exact hfront others rfl

theorem controlLength_le (text : List Char) : controlLength text ≤ text.length := by
  unfold controlLength
  split
  · next rest =>
    dsimp only
    split
    · next hletter =>
      have hrest : rest.drop (rest.takeWhile isParameter).length ≠ [] := by
        intro hnil
        simp [hnil] at hletter
      have hlength := List.length_pos_iff.mpr hrest
      rw [List.length_drop] at hlength
      simp only [List.length_cons]
      omega
    · exact Nat.zero_le _
  · exact Nat.zero_le _

theorem dropControls_append {skipped : Nat} (h : skipped ≤ front.length) (back : List Char) :
    dropControls skipped (front ++ '\n' :: back) =
      dropControls skipped front ++ '\n' :: dropControls 0 back := by
  induction front generalizing skipped with
  | nil =>
    rw [Nat.le_zero.mp h]
    rfl
  | cons c rest ih =>
    cases skipped with
    | succ skipped => exact ih (Nat.le_of_succ_le_succ h)
    | zero =>
      have hlength := controlLength_le (c :: rest)
      have happend := controlLength_append (c :: rest) back
      rw [List.cons_append] at happend ⊢
      rw [dropControls, dropControls, happend]
      rcases hcontrol : controlLength (c :: rest) with _ | length
      · exact congrArg (c :: ·) (ih (Nat.zero_le _))
      · rw [hcontrol] at hlength
        exact ih (Nat.le_of_succ_le_succ hlength)

theorem withoutControls_append (front back : String) :
    withoutControls (front ++ "\n" ++ back) =
      withoutControls front ++ "\n" ++ withoutControls back := by
  rw [withoutControls, String.toList_append, String.toList_append, List.append_assoc]
  have hdrop := @dropControls_append front.toList 0 (Nat.zero_le _) back.toList
  exact (congrArg String.ofList hdrop).trans (by simp [withoutControls, ← String.toList_inj])

theorem withoutControls_line (text : String) :
    withoutControls (text ++ "\n") = withoutControls text ++ "\n" := by
  simpa [withoutControls, dropControls] using withoutControls_append text ""

/-- Each line loses its own control sequences. -/
theorem withoutControls_lines (texts : List String) :
    withoutControls (String.join (texts.map (· ++ "\n"))) =
      String.join (texts.map (withoutControls · ++ "\n")) := by
  induction texts with
  | nil => rfl
  | cons text rest ih =>
    rw [List.map_cons, List.map_cons, String.join_cons, String.join_cons, withoutControls_append,
      ih]

end SchemaPages.Text
