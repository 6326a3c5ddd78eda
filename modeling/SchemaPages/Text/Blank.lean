/-!
# Blank characters and trimming

A character is blank when it belongs to `blankCodes`: the controls and separators that leave no
mark on a line. `trim` drops the blank characters at both ends of a text; nothing is left of it
exactly when all of it is blank (`trimChars_eq_nil_iff`).
-/

namespace SchemaPages.Text

/-- The code points of the blank characters. -/
def blankCodes : List Nat :=
  [0x9, 0xA, 0xB, 0xC, 0xD, 0x1C, 0x1D, 0x1E, 0x1F, 0x20, 0x85, 0xA0, 0x1680, 0x2000, 0x2001,
   0x2002, 0x2003, 0x2004, 0x2005, 0x2006, 0x2007, 0x2008, 0x2009, 0x200A, 0x2028, 0x2029, 0x202F,
   0x205F, 0x3000]

/-- Whether a character is blank. -/
def isBlank (c : Char) : Bool :=
  blankCodes.contains c.toNat

/-- Drops the blank characters at the end of a text. -/
def trimEnd : List Char → List Char
  | [] => []
  | c :: rest =>
    match trimEnd rest with
    | [] => if isBlank c then [] else [c]
    | kept => c :: kept

/-- Drops the blank characters at both ends of a text. -/
def trimChars (text : List Char) : List Char :=
  trimEnd (text.dropWhile isBlank)

/-- Drops the blank characters at both ends of a text. -/
def trim (text : String) : String :=
  String.ofList (trimChars text.toList)

/-! ### What trimming leaves -/

theorem trimEnd_eq_nil_iff {text : List Char} : trimEnd text = [] ↔ text.all isBlank := by
  induction text with
  | nil => simp [trimEnd]
  | cons c rest ih =>
    cases h : trimEnd rest with
    | nil => by_cases hc : isBlank c <;> simp_all [trimEnd]
    | cons d kept =>
      have hrest : ¬ rest.all isBlank := fun hall => by simp [ih.2 hall] at h
      simp only [trimEnd, h, List.all_cons, Bool.and_eq_true]
      exact ⟨fun hnil => by simp at hnil, fun hall => absurd hall.2 hrest⟩

/-- Nothing is left of a text exactly when all of it is blank. -/
theorem trimChars_eq_nil_iff {text : List Char} : trimChars text = [] ↔ text.all isBlank := by
  rw [trimChars, trimEnd_eq_nil_iff]
  induction text with
  | nil => rfl
  | cons c rest ih => by_cases hc : isBlank c <;> simp [hc, ih]

end SchemaPages.Text
