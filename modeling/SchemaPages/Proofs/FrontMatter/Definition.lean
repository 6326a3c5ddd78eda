import SchemaPages.FrontMatter.Basic
import SchemaPages.Proofs.Text.Trim

/-!
# Blanks in a definition

The parts of a definition and their keys and values are trimmed, so blanks around a definition do
not matter: the definition without them has the same entries or is malformed too
(`toOption_parse_trim`). What an error quotes is the part as it stands, and may differ.
-/

namespace SchemaPages.FrontMatter

open Text (isBlank splitAtChar trimChars)

/-- Blanks around a part do not change its entry. -/
theorem entry?_trimChars (segment : List Char) : entry? (trimChars segment) = entry? segment := by
  by_cases hmark : ':' ∈ segment
  · obtain ⟨key, value, rfl, hkey⟩ := List.eq_append_cons_of_mem hmark
    have hdropped : ':' ∉ key.dropWhile isBlank := fun hmem =>
      hkey ((List.dropWhile_suffix isBlank).subset hmem)
    rw [Text.trimChars_append_cons (by decide), entry?, entry?,
      Text.cutFirst_append_cons hdropped, Text.cutFirst_append_cons hkey]
    simp only [Text.trimChars_dropWhile, Text.trimChars_trimEnd]
  · unfold entry?
    rw [Text.cutFirst_eq_none hmark, Text.cutFirst_eq_none (mt Text.mem_of_mem_trimChars hmark)]

/-- The entries of parts do not depend on the blanks around them. -/
theorem toOption_ofSegments_map (segments : List (List Char)) :
    (ofSegments (segments.map trimChars)).toOption = (ofSegments segments).toOption := by
  induction segments with
  | nil => rfl
  | cons segment rest ih =>
    have hblank : (trimChars segment).all isBlank = segment.all isBlank := by
      rw [Bool.eq_iff_iff, ← Text.trimChars_eq_nil_iff, ← Text.trimChars_eq_nil_iff,
        Text.trimChars_trimChars]
    rw [List.map_cons, ofSegments, ofSegments, hblank, entry?_trimChars]
    split
    · exact ih
    · cases entry? segment with
      | none => rfl
      | some entry =>
        generalize ofSegments (rest.map trimChars) = trimmed at ih ⊢
        generalize ofSegments rest = whole at ih ⊢
        cases trimmed <;> cases whole <;> simp_all [Except.toOption, Except.map, Functor.map]

/-- A definition has the same entries without the blanks around it. -/
theorem toOption_parse_trim (text : String) :
    (parse (Text.trim text)).toOption = (parse text).toOption := by
  rw [parse, parse, Text.trim, String.toList_ofList, ← toOption_ofSegments_map,
    Text.map_trimChars_splitAtChar (by decide), toOption_ofSegments_map]

end SchemaPages.FrontMatter
