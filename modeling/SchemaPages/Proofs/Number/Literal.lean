import SchemaPages.Number.Literal

/-!
# Integers that are written and read

The decimal notation of an integer is read back as the integer (`readInt_toString`).
-/

namespace SchemaPages.Number

variable {c : Char} {text : List Char}

/-! ### Decimal digits -/

theorem toNat_of_isDigit (h : c.isDigit) : 48 ≤ c.toNat ∧ c.toNat ≤ 57 := by
  simpa [Char.isDigit, UInt32.le_iff_toNat_le] using h

theorem isPadding_of_isDigit (h : c.isDigit) : isPadding c = false := by
  obtain ⟨hlow, hhigh⟩ := toNat_of_isDigit h
  simp [isPadding, Text.isBlank, Text.blankCodes]
  omega

theorem digitOf?_of_isDigit (h : c.isDigit) : digitOf? 10 c = some (c.toNat - 48) := by
  obtain ⟨hlow, hhigh⟩ := toNat_of_isDigit h
  have hlower : ¬ 'a' ≤ c := by
    rw [Char.le_def, UInt32.le_iff_toNat_le]
    exact Nat.not_le.mpr (Nat.lt_of_le_of_lt hhigh (by decide))
  have hupper : ¬ 'A' ≤ c := by
    rw [Char.le_def, UInt32.le_iff_toNat_le]
    exact Nat.not_le.mpr (Nat.lt_of_le_of_lt hhigh (by decide))
  have hzero : zeroCodes.find? (fun z => z ≤ c.toNat && c.toNat < z + 10) = some 48 :=
    List.find?_cons_of_pos (by simp; omega)
  simp only [digitOf?, digitValue?, decimalDigit?, hlower, hupper, hzero]
  simp
  omega

/-- Digits without underscores are worth what they are worth as a number. -/
theorem readDigits_of_isDigit (h : ∀ c ∈ text, c.isDigit) (n : Nat) :
    readDigits 10 n false text = some (Nat.ofDigitChars 10 text n) := by
  induction text generalizing n with
  | nil => rfl
  | cons c rest ih =>
    obtain ⟨hc, hrest⟩ := List.forall_mem_cons.mp h
    have hunderscore : c ≠ '_' := by
      rintro rfl
      exact absurd hc (by decide)
    rw [readDigits, if_neg hunderscore, digitOf?_of_isDigit hc, Nat.ofDigitChars_cons,
      Nat.mul_comm 10 n]
    exact ih hrest _

/-! ### Integers -/

theorem dropBasePrefix_ten (text : List Char) : dropBasePrefix 10 text = text := by
  rw [dropBasePrefix.eq_def]
  split
  · exact if_neg (by simp [baseLetter?])
  · rfl

/-- The decimal notation of a number starts with a digit. -/
theorem isDigit_of_toDigits_eq {n : Nat} (h : Nat.toDigits 10 n = c :: text) : c.isDigit :=
  Nat.isDigit_of_mem_toDigits (by decide) (by decide) (h ▸ List.mem_cons_self)

theorem readNat_toDigits (n : Nat) : readNat 10 (Nat.toDigits 10 n) = some n := by
  have hdigits : ∀ c ∈ Nat.toDigits 10 n, c.isDigit := fun c hc =>
    Nat.isDigit_of_mem_toDigits (by decide) (by decide) hc
  rw [readNat, dropBasePrefix_ten]
  split
  · next hnil => exact absurd hnil Nat.toDigits_ne_nil
  · next hcons => exact absurd (isDigit_of_toDigits_eq hcons) (by decide)
  · rw [readDigits_of_isDigit hdigits, Nat.ofDigitChars_ten_toDigits]

theorem dropPadding_of_forall (h : ∀ c ∈ text, isPadding c = false) : dropPadding text = text := by
  have hkept : ∀ {text : List Char}, (∀ c ∈ text, isPadding c = false) →
      text.dropWhile isPadding = text := by
    intro text h
    cases text with
    | nil => rfl
    | cons c rest => exact List.dropWhile_cons_of_neg (by simp [h c List.mem_cons_self])
  rw [dropPadding, hkept h, hkept fun c hc => h c (List.mem_reverse.mp hc), List.reverse_reverse]

/-- The decimal notation of an integer is read back. -/
theorem readInt_toString (n : Int) : readInt 10 (toString n) = some n := by
  have hpadding : ∀ m, ∀ c ∈ Nat.toDigits 10 m, isPadding c = false := fun m c hc =>
    isPadding_of_isDigit (Nat.isDigit_of_mem_toDigits (by decide) (by decide) hc)
  cases n with
  | ofNat m =>
    have htext : (toString (Int.ofNat m)).toList = Nat.toDigits 10 m := by
      simp [Int.toString_eq_repr, Int.repr]
    rw [readInt, htext, dropPadding_of_forall (hpadding m)]
    -- A sign is no digit, so there is none.
    split
    · next hsign => exact absurd (isDigit_of_toDigits_eq hsign) (by decide)
    · next hsign => exact absurd (isDigit_of_toDigits_eq hsign) (by decide)
    · rw [readNat_toDigits]
      rfl
  | negSucc m =>
    have htext : (toString (Int.negSucc m)).toList = '-' :: Nat.toDigits 10 (m + 1) := by
      simp [Int.toString_eq_repr, Int.repr]
    rw [readInt, htext, dropPadding_of_forall (List.forall_mem_cons.mpr ⟨by decide, hpadding _⟩)]
    simp only [readNat_toDigits]
    rfl

end SchemaPages.Number
