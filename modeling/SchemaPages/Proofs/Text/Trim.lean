import Mathlib.Data.List.DropRight
import SchemaPages.Text.Blank
import SchemaPages.Text.Split

/-!
# Trimmed texts

A text is trimmed if it has no blank character at its ends. Trimming leaves such a text
(`trimmed_trimChars`) and changes no text that is trimmed (`trimChars_of_trimmed`).

Parts of a text that are cut out at a character and trimmed do not show whether the whole text has
been trimmed before, provided that the character is not blank: what trimming drops lies in the first
and in the last part, where it is dropped anyway (`map_trimChars_splitAtChar`).
-/

namespace SchemaPages.Text

/-- Whether a text neither starts nor ends with a blank character. -/
def Trimmed (text : List Char) : Prop :=
  (∀ c ∈ text.head?, ¬ isBlank c) ∧ ∀ c ∈ text.getLast?, ¬ isBlank c

-- The instances are named because there is also one that tries all characters.
instance (text : List Char) : Decidable (Trimmed text) :=
  @instDecidableAnd _ _ (Option.decidableForallMem text.head?)
    (Option.decidableForallMem text.getLast?)

variable {c mark : Char} {text before after : List Char}

/-! ### The end of a text -/

theorem trimEnd_eq_rdropWhile (text : List Char) : trimEnd text = text.rdropWhile isBlank := by
  induction text with
  | nil => rfl
  | cons c rest ih =>
    rw [trimEnd, ih, List.rdropWhile, List.rdropWhile, List.reverse_cons, List.dropWhile_append]
    cases rest.reverse.dropWhile isBlank with
    | nil => by_cases hc : isBlank c <;> simp [hc]
    | cons last kept => simp

theorem trimEnd_cons (hc : ¬ isBlank c) (rest : List Char) :
    trimEnd (c :: rest) = c :: trimEnd rest := by
  rw [trimEnd]
  split
  · next hnil => rw [if_neg hc, hnil]
  · rfl

/-- What comes before a character that is not blank is kept. -/
theorem trimEnd_append_cons (hmark : ¬ isBlank mark) (before after : List Char) :
    trimEnd (before ++ mark :: after) = before ++ mark :: trimEnd after := by
  induction before with
  | nil => exact trimEnd_cons hmark after
  | cons c rest ih =>
    rw [List.cons_append, trimEnd, ih]
    cases rest <;> rfl

theorem getLast?_trimEnd (text : List Char) : ∀ c ∈ (trimEnd text).getLast?, ¬ isBlank c := by
  rw [trimEnd_eq_rdropWhile]
  intro c hc
  obtain ⟨hne, rfl⟩ := List.mem_getLast?_eq_getLast hc
  exact List.rdropWhile_last_not isBlank text hne

theorem trimEnd_of_getLast? (h : ∀ c ∈ text.getLast?, ¬ isBlank c) : trimEnd text = text := by
  rw [trimEnd_eq_rdropWhile, List.rdropWhile_eq_self_iff]
  exact fun hne => h _ (List.getLast?_eq_some_getLast hne)

theorem trimEnd_trimEnd (text : List Char) : trimEnd (trimEnd text) = trimEnd text :=
  trimEnd_of_getLast? (getLast?_trimEnd text)

/-! ### Both ends -/

theorem trimChars_cons_of_isBlank (hc : isBlank c) (rest : List Char) :
    trimChars (c :: rest) = trimChars rest := by
  rw [trimChars, List.dropWhile_cons_of_pos hc, trimChars]

/-- It does not matter which end is trimmed first. -/
theorem dropWhile_trimEnd (text : List Char) :
    (trimEnd text).dropWhile isBlank = trimChars text := by
  induction text with
  | nil => rfl
  | cons c rest ih =>
    by_cases hc : isBlank c
    · rw [trimChars_cons_of_isBlank hc, ← ih, trimEnd]
      split
      · next hnil => rw [if_pos hc, hnil]
      · exact List.dropWhile_cons_of_pos hc
    · rw [trimChars, trimEnd_cons hc, List.dropWhile_cons_of_neg hc, List.dropWhile_cons_of_neg hc,
        trimEnd_cons hc]

/-- Trimming leaves a trimmed text. -/
theorem trimmed_trimChars (text : List Char) : Trimmed (trimChars text) := by
  refine ⟨fun c hc => ?_, getLast?_trimEnd _⟩
  have hfirst := List.head?_dropWhile_not isBlank (trimEnd text)
  rw [dropWhile_trimEnd, hc] at hfirst
  exact Bool.eq_false_iff.mp hfirst

/-- A trimmed text stays as it is. -/
theorem trimChars_of_trimmed (h : Trimmed text) : trimChars text = text := by
  have hstart : text.dropWhile isBlank = text := by
    cases text with
    | nil => rfl
    | cons c rest => exact List.dropWhile_cons_of_neg (h.1 c rfl)
  rw [trimChars, hstart, trimEnd_of_getLast? h.2]

theorem trimChars_trimChars (text : List Char) : trimChars (trimChars text) = trimChars text :=
  trimChars_of_trimmed (trimmed_trimChars text)

theorem trimChars_trimEnd (text : List Char) : trimChars (trimEnd text) = trimChars text := by
  rw [← dropWhile_trimEnd, trimEnd_trimEnd, dropWhile_trimEnd]

theorem trimChars_dropWhile (text : List Char) :
    trimChars (text.dropWhile isBlank) = trimChars text := by
  rw [trimChars, List.dropWhile_idempotent, trimChars]

theorem mem_of_mem_trimChars (h : c ∈ trimChars text) : c ∈ text := by
  rw [trimChars, trimEnd_eq_rdropWhile] at h
  exact (List.dropWhile_suffix isBlank).subset ((List.rdropWhile_prefix isBlank _).subset h)

/-- Only what comes before a character that is not blank is trimmed at its start, and only what
comes after it at its end. -/
theorem trimChars_append_cons (hmark : ¬ isBlank mark) (before after : List Char) :
    trimChars (before ++ mark :: after) = before.dropWhile isBlank ++ mark :: trimEnd after := by
  induction before with
  | nil =>
    rw [List.nil_append, trimChars, List.dropWhile_cons_of_neg hmark, trimEnd_cons hmark]
    rfl
  | cons c rest ih =>
    by_cases hc : isBlank c
    · rw [List.cons_append, trimChars_cons_of_isBlank hc, ih, List.dropWhile_cons_of_pos hc]
    · rw [List.cons_append, trimChars, List.dropWhile_cons_of_neg hc, List.dropWhile_cons_of_neg hc,
        ← List.cons_append, trimEnd_append_cons hmark]

/-! ### Pieces -/

theorem splitAtChar_cons_of_ne (hc : c ≠ mark) (rest : List Char) :
    ∃ piece pieces, splitAtChar mark rest = piece :: pieces ∧
      splitAtChar mark (c :: rest) = (c :: piece) :: pieces := by
  cases hrest : splitAtChar mark rest with
  | nil => exact absurd hrest (splitAtChar_ne_nil mark rest)
  | cons piece pieces => exact ⟨piece, pieces, rfl, by rw [splitAtChar, if_neg hc, hrest]⟩

theorem map_trimEnd_splitAtChar (hmark : ¬ isBlank mark) (text : List Char) :
    (splitAtChar mark (trimEnd text)).map trimEnd = (splitAtChar mark text).map trimEnd := by
  induction text with
  | nil => rfl
  | cons c rest ih =>
    by_cases hc : c = mark
    · subst hc
      rw [trimEnd_cons hmark, splitAtChar, splitAtChar, if_pos rfl, if_pos rfl, List.map_cons,
        List.map_cons, ih]
    · obtain ⟨piece, pieces, hrest, hcons⟩ := splitAtChar_cons_of_ne hc rest
      obtain ⟨kept, others, hkept, hkeptCons⟩ := splitAtChar_cons_of_ne hc (trimEnd rest)
      rw [hrest, hkept, List.map_cons, List.map_cons, List.cons.injEq] at ih
      -- A blank character that is dropped makes a piece of which nothing is left.
      have hfirst : (splitAtChar mark (trimEnd (c :: rest))).map trimEnd =
          (splitAtChar mark (c :: trimEnd rest)).map trimEnd := by
        rw [trimEnd]
        split
        · next hnil => split <;> simp_all [splitAtChar, trimEnd]
        · rfl
      have hpiece : trimEnd (c :: kept) = trimEnd (c :: piece) := by simp only [trimEnd, ih.1]
      rw [hfirst, hkeptCons, hcons, List.map_cons, List.map_cons, hpiece, ih.2]

theorem map_trimChars_splitAtChar_dropWhile (hmark : ¬ isBlank mark) (text : List Char) :
    (splitAtChar mark (text.dropWhile isBlank)).map trimChars =
      (splitAtChar mark text).map trimChars := by
  induction text with
  | nil => rfl
  | cons c rest ih =>
    by_cases hc : isBlank c
    · have hne : c ≠ mark := fun heq => hmark (heq ▸ hc)
      obtain ⟨piece, pieces, hrest, hcons⟩ := splitAtChar_cons_of_ne hne rest
      rw [List.dropWhile_cons_of_pos hc, ih, hrest, hcons, List.map_cons, List.map_cons,
        trimChars_cons_of_isBlank hc]
    · rw [List.dropWhile_cons_of_neg hc]

/-- Trimming a text does not change its trimmed pieces. -/
theorem map_trimChars_splitAtChar (hmark : ¬ isBlank mark) (text : List Char) :
    (splitAtChar mark (trimChars text)).map trimChars = (splitAtChar mark text).map trimChars := by
  have hends : ∀ pieces : List (List Char),
      pieces.map trimChars = (pieces.map trimEnd).map (List.dropWhile isBlank) := by
    intro pieces
    rw [List.map_map]
    exact List.map_congr_left fun piece _ => (dropWhile_trimEnd piece).symm
  rw [trimChars, hends, map_trimEnd_splitAtChar hmark, ← hends,
    map_trimChars_splitAtChar_dropWhile hmark]

end SchemaPages.Text
