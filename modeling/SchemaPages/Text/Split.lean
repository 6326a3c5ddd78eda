/-!
# Cutting a text at a character, and replacing a part of it

`splitAtChar` cuts at every occurrence of a character, so that a text with `n` of them has `n + 1`
pieces; `cutFirst` cuts at the first occurrence only and tells whether there is one.
`replaceAll` rewrites every occurrence of a fixed text, from left to right and without
overlaps.
-/

namespace SchemaPages.Text

/-- The pieces of a text between the occurrences of a character. -/
def splitAtChar (mark : Char) : List Char → List (List Char)
  | [] => [[]]
  | c :: rest =>
    if c = mark then [] :: splitAtChar mark rest
    else
      match splitAtChar mark rest with
      | [] => [[c]]
      | piece :: pieces => (c :: piece) :: pieces

/-- The text before and after the first occurrence of a character. -/
def cutFirst (mark : Char) : List Char → Option (List Char × List Char)
  | [] => none
  | c :: rest =>
    if c = mark then some ([], rest)
    else (cutFirst mark rest).map fun (before, after) => (c :: before, after)

/-- Replaces every occurrence of `pattern` in a text by `replacement`. The first argument counts
the characters of the current occurrence that are still to be skipped. -/
def replaceFrom (pattern replacement : List Char) : Nat → List Char → List Char
  | _, [] => []
  | skipped + 1, _ :: rest => replaceFrom pattern replacement skipped rest
  | 0, c :: rest =>
    if pattern.isPrefixOf (c :: rest) then
      replacement ++ replaceFrom pattern replacement (pattern.length - 1) rest
    else c :: replaceFrom pattern replacement 0 rest

/-- Replaces every occurrence of a non-empty text by another, from left to right. -/
def replaceAll (pattern replacement text : String) : String :=
  String.ofList (replaceFrom pattern.toList replacement.toList 0 text.toList)

/-- Drops every occurrence of a character. -/
def without (mark : Char) (text : String) : String :=
  String.ofList (text.toList.filter (· != mark))

/-- Joins the pieces with a character between them. -/
def joinWith (mark : Char) : List (List Char) → List Char
  | [] => []
  | [piece] => piece
  | piece :: pieces => piece ++ mark :: joinWith mark pieces

theorem splitAtChar_ne_nil (mark : Char) (text : List Char) : splitAtChar mark text ≠ [] := by
  cases text with
  | nil => simp [splitAtChar]
  | cons c rest =>
    rw [splitAtChar]
    split
    · simp
    · split <;> simp

/-- A text without the character is in one piece. -/
theorem splitAtChar_of_not_mem {mark : Char} {text : List Char} (h : mark ∉ text) :
    splitAtChar mark text = [text] := by
  induction text with
  | nil => rfl
  | cons c rest ih =>
    obtain ⟨hc, hrest⟩ := not_or.mp (mt List.mem_cons.mpr h)
    rw [splitAtChar, if_neg (Ne.symm hc), ih hrest]

/-- A text that is joined with a character is cut like its two parts. -/
theorem splitAtChar_append (mark : Char) (before after : List Char) :
    splitAtChar mark (before ++ mark :: after) =
      splitAtChar mark before ++ splitAtChar mark after := by
  induction before with
  | nil => exact if_pos rfl
  | cons c rest ih =>
    rw [List.cons_append, splitAtChar, splitAtChar, ih]
    split
    · rfl
    · cases hrest : splitAtChar mark rest with
      | nil => exact absurd hrest (splitAtChar_ne_nil mark rest)
      | cons piece pieces => rfl

theorem cutFirst_eq_none {mark : Char} {text : List Char} (h : mark ∉ text) :
    cutFirst mark text = none := by
  induction text with
  | nil => rfl
  | cons c rest ih =>
    obtain ⟨hc, hrest⟩ := not_or.mp (mt List.mem_cons.mpr h)
    rw [cutFirst, if_neg (Ne.symm hc), ih hrest, Option.map_none]

theorem cutFirst_append_cons {mark : Char} {before : List Char} (h : mark ∉ before)
    (after : List Char) : cutFirst mark (before ++ mark :: after) = some (before, after) := by
  induction before with
  | nil => rw [List.nil_append, cutFirst, if_pos rfl]
  | cons c rest ih =>
    obtain ⟨hc, hrest⟩ := not_or.mp (mt List.mem_cons.mpr h)
    rw [List.cons_append, cutFirst, if_neg (Ne.symm hc), ih hrest, Option.map_some]

/-- A text that can be cut is what comes before and after the character, which is not found before
it is cut. -/
theorem eq_append_of_cutFirst {mark : Char} {text before after : List Char}
    (h : cutFirst mark text = some (before, after)) :
    text = before ++ mark :: after ∧ mark ∉ before := by
  by_cases hmark : mark ∈ text
  · obtain ⟨first, rest, rfl, hfirst⟩ := List.eq_append_cons_of_mem hmark
    rw [cutFirst_append_cons hfirst] at h
    cases h
    exact ⟨rfl, hfirst⟩
  · rw [cutFirst_eq_none hmark] at h
    cases h

/-- Cutting loses nothing. -/
theorem joinWith_splitAtChar (mark : Char) (text : List Char) :
    joinWith mark (splitAtChar mark text) = text := by
  induction text with
  | nil => rfl
  | cons c rest ih =>
    rw [splitAtChar]
    cases hp : splitAtChar mark rest with
    | nil => exact absurd hp (splitAtChar_ne_nil mark rest)
    | cons piece pieces =>
      rw [hp] at ih
      split
      next hc => simp [joinWith, ih, hc]
      next hc => cases pieces <;> simp_all [joinWith]

end SchemaPages.Text
