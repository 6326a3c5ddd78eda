import Mathlib.Algebra.Order.Field.Power
import Mathlib.Algebra.Order.Field.Rat
import Mathlib.Tactic.Linarith
import Mathlib.Tactic.Positivity
import Mathlib.Tactic.Ring

/-!
# Rounding to a float

An operation on floats has an exact result, which is rounded: its mantissa is shifted to the right
until it fits, and two bits say of what has been shifted out whether it is nothing, less than a
half, a half, or more (`Locates`). So the rounded mantissa is the nearest integer to a rational
number, and an even one in the middle between two (`Locates.le_roundedMantissa_iff`). For a number
`m · 2 ^ e` this gives the mantissa and the exponent of the float next to it
(`roundWithAccuracy_eq`): 53 digits, which may become a power of two by rounding, or fewer if the
exponent is the least one.
-/

namespace SchemaPages.Number

open Float.Model UnpackedFloat

variable {bits other : ExtendedMantissa} {x y : ℚ} {m n : ℕ} {e f : ℤ} {sign : Sign}

/-! ### Shifted mantissas -/

/-- Whether a number lies where the bits behind a mantissa say: at the mantissa, below or at the
middle to the next integer, or above it. -/
def Locates (bits : ExtendedMantissa) (x : ℚ) : Prop :=
  match bits.roundBit, bits.stickyBit with
  | false, false => x = bits.mantissa
  | false, true => bits.mantissa < x ∧ x < bits.mantissa + 1 / 2
  | true, false => x = bits.mantissa + 1 / 2
  | true, true => bits.mantissa + 1 / 2 < x ∧ x < bits.mantissa + 1

theorem locates_exact (m : ℕ) : Locates (.ofMantissaAndAccuracy m .exact) m :=
  rfl

/-- Halving a number shifts its digits by one place. -/
theorem Locates.shiftRightOne (h : Locates bits x) : Locates bits.shiftRightOne (x / 2) := by
  obtain ⟨mantissa, round, sticky⟩ := bits
  -- The last digit of the mantissa becomes the next digit, and what was behind it stays behind.
  obtain ⟨half, rfl | rfl⟩ := Nat.even_or_odd' mantissa <;> cases round <;> cases sticky <;>
    simp [Locates, ExtendedMantissa.shiftRightOne, Nat.mul_add_div] at h ⊢ <;>
    (try constructor) <;> linarith

/-- A shift divides by a power of two. -/
theorem Locates.shiftRight (h : Locates bits x) (n : ℕ) : Locates (bits >>> n) (x / 2 ^ n) := by
  induction n with
  | zero =>
    rw [pow_zero, div_one]
    exact h
  | succ n ih =>
    rw [pow_succ, ← div_div]
    exact ih.shiftRightOne

theorem Locates.bounds (h : Locates bits x) : (bits.mantissa : ℚ) ≤ x ∧ x < bits.mantissa + 1 := by
  obtain ⟨mantissa, round, sticky⟩ := bits
  cases round <;> cases sticky <;> simp only [Locates] at h <;> constructor <;> linarith

theorem roundedMantissa_bounds (bits : ExtendedMantissa) :
    bits.mantissa ≤ bits.roundedMantissa ∧ bits.roundedMantissa ≤ bits.mantissa + 1 := by
  obtain ⟨mantissa, round, sticky⟩ := bits
  cases round <;> cases sticky <;>
    simp only [ExtendedMantissa.roundedMantissa, ExtendedMantissa.accuracy,
      Accuracy.roundToNearestEven] <;> omega

/-- A mantissa is rounded up in the upper half, and in the middle if it is odd. -/
theorem Locates.lt_roundedMantissa_iff (h : Locates bits x) :
    bits.mantissa < bits.roundedMantissa ↔
      bits.mantissa + 1 / 2 < x ∨ bits.mantissa % 2 = 1 ∧ x = bits.mantissa + 1 / 2 := by
  obtain ⟨mantissa, round, sticky⟩ := bits
  cases round <;> cases sticky <;>
    simp only [Locates, ExtendedMantissa.roundedMantissa, ExtendedMantissa.accuracy,
      Accuracy.roundToNearestEven] at h ⊢
  · exact iff_of_false (lt_irrefl _) (by rintro (hlt | ⟨-, heq⟩) <;> linarith)
  · exact iff_of_false (lt_irrefl _) (by rintro (hlt | ⟨-, heq⟩) <;> linarith)
  · refine ⟨fun hlt => .inr ⟨by omega, h⟩, ?_⟩
    rintro (hlt | ⟨hodd, -⟩)
    · linarith
    · omega
  · exact iff_of_true (Nat.lt_succ_self _) (.inl h.1)

/-- A number is rounded to the nearest integer, and to the even one if it is in the middle. -/
theorem Locates.le_roundedMantissa_iff (h : Locates bits x) (r : ℕ) :
    r ≤ bits.roundedMantissa ↔ (r : ℚ) - 1 / 2 < x ∨ r % 2 = 0 ∧ x = (r : ℚ) - 1 / 2 := by
  obtain ⟨hlow, hhigh⟩ := h.bounds
  obtain ⟨hfloor, hceil⟩ := roundedMantissa_bounds bits
  rcases (by omega : r ≤ bits.mantissa ∨ r = bits.mantissa + 1 ∨ bits.mantissa + 2 ≤ r) with
    hr | rfl | hr
  · have hcast : (r : ℚ) ≤ bits.mantissa := Nat.cast_le.mpr hr
    exact iff_of_true (hr.trans hfloor) (.inl (by linarith))
  · have hmiddle : ((bits.mantissa + 1 : ℕ) : ℚ) - 1 / 2 = bits.mantissa + 1 / 2 := by
      push_cast
      ring
    rw [hmiddle, Nat.succ_le_iff, h.lt_roundedMantissa_iff]
    have hparity : bits.mantissa % 2 = 1 ↔ (bits.mantissa + 1) % 2 = 0 := by omega
    rw [hparity]
  · have hcast : (bits.mantissa : ℚ) + 2 ≤ r := by exact_mod_cast hr
    refine iff_of_false (by omega) ?_
    rintro (hlt | ⟨-, heq⟩) <;> linarith

theorem Locates.le_roundedMantissa_iff_of_even (h : Locates bits x) {r : ℕ} (hr : r % 2 = 0) :
    r ≤ bits.roundedMantissa ↔ (r : ℚ) - 1 / 2 ≤ x := by
  rw [h.le_roundedMantissa_iff, le_iff_lt_or_eq, eq_comm (a := x)]
  simp only [hr, true_and]

/-- A greater number has no smaller mantissa. -/
theorem Locates.roundedMantissa_le_of_le (h : Locates bits x) (hother : Locates other y)
    (hle : x ≤ y) : bits.roundedMantissa ≤ other.roundedMantissa := by
  rw [hother.le_roundedMantissa_iff]
  rcases (h.le_roundedMantissa_iff _).mp le_rfl with hlt | ⟨heven, heq⟩
  · exact .inl (hlt.trans_le hle)
  · rcases (heq ▸ hle).lt_or_eq with hlt | heq'
    · exact .inl hlt
    · exact .inr ⟨heven, heq'.symm⟩

/-- An integer stays as it is. -/
theorem Locates.roundedMantissa_eq {r : ℕ} (h : Locates bits r) : bits.roundedMantissa = r := by
  have hlow : r ≤ bits.roundedMantissa := (h.le_roundedMantissa_iff r).mpr (.inl (by linarith))
  have hhigh : ¬ r + 1 ≤ bits.roundedMantissa := by
    rw [h.le_roundedMantissa_iff]
    push_cast
    rintro (hlt | ⟨-, heq⟩) <;> linarith
  omega

/-! ### Dyadic numbers -/

/-- The exponent of the float next to `m · 2 ^ e`. -/
def exponentOf (m : ℕ) (e : ℤ) : ℤ :=
  Format.binary64.targetExponent (totalExponent m e)

/-- The mantissa of `m · 2 ^ e`, shifted to the exponent of the float. -/
def shifted (m : ℕ) (e : ℤ) : ExtendedMantissa :=
  ExtendedMantissa.ofMantissaAndAccuracy m .exact >>> (exponentOf m e - e).toNat

/-- The mantissa of the float next to `m · 2 ^ e`, before a carry. -/
def mantissaOf (m : ℕ) (e : ℤ) : ℕ :=
  (shifted m e).roundedMantissa

theorem exponentOf_eq (m : ℕ) (e : ℤ) : exponentOf m e = max (m.log2 + e - 52) (-1074) := by
  have hbits : (Format.binary64.mantissaBits : ℤ) = 53 := rfl
  have hleast : Format.binary64.minExponent = -1074 := rfl
  rw [exponentOf, Format.targetExponent, totalExponent, hbits, hleast]
  omega

theorem locates_shifted (he : e ≤ exponentOf m e) :
    Locates (shifted m e) (m * 2 ^ e / 2 ^ exponentOf m e) := by
  have hplaces : (m * 2 ^ e / 2 ^ exponentOf m e : ℚ) = m / 2 ^ (exponentOf m e - e).toNat := by
    have hsplit : (2 : ℚ) ^ exponentOf m e = 2 ^ (exponentOf m e - e).toNat * 2 ^ e := by
      rw [← zpow_natCast, ← zpow_add₀ two_ne_zero]
      congr 1
      omega
    rw [hsplit, mul_div_mul_right _ _ (zpow_ne_zero e two_ne_zero)]
  rw [hplaces]
  exact (locates_exact m).shiftRight _

/-- A mantissa has at most 53 digits. -/
theorem scaled_lt (m : ℕ) (e : ℤ) : (m * 2 ^ e / 2 ^ exponentOf m e : ℚ) < 2 ^ 53 := by
  have hm : (m : ℚ) < 2 ^ (m.log2 + 1) := by exact_mod_cast Nat.lt_log2_self
  have hexponent : (m.log2 + 1 : ℕ) + e ≤ 53 + exponentOf m e := by
    rw [exponentOf_eq]
    omega
  rw [div_lt_iff₀ (by positivity)]
  calc (m * 2 ^ e : ℚ) < 2 ^ (m.log2 + 1) * 2 ^ e := by gcongr
    _ = 2 ^ ((m.log2 + 1 : ℕ) + e) := by rw [zpow_add₀ two_ne_zero, zpow_natCast]
    _ ≤ 2 ^ (53 + exponentOf m e) := by gcongr; norm_num
    _ = 2 ^ 53 * 2 ^ exponentOf m e := by
      rw [zpow_add₀ two_ne_zero]
      norm_num

/-- A mantissa has 53 digits unless the exponent is the least one. -/
theorem le_scaled (hm : 0 < m) (h : -1074 < exponentOf m e) :
    (2 ^ 52 : ℚ) ≤ m * 2 ^ e / 2 ^ exponentOf m e := by
  have hlow : (2 ^ m.log2 : ℚ) ≤ m := by exact_mod_cast Nat.log2_self_le hm.ne'
  have hexponent : 52 + exponentOf m e = m.log2 + e := by
    rw [exponentOf_eq] at h ⊢
    omega
  rw [le_div_iff₀ (by positivity)]
  calc (2 ^ 52 * 2 ^ exponentOf m e : ℚ) = 2 ^ (52 + exponentOf m e) := by
        rw [zpow_add₀ two_ne_zero]
        norm_num
    _ = 2 ^ m.log2 * 2 ^ e := by rw [hexponent, zpow_add₀ two_ne_zero, zpow_natCast]
    _ ≤ m * 2 ^ e := by gcongr

theorem mantissaOf_le (he : e ≤ exponentOf m e) : mantissaOf m e ≤ 2 ^ 53 := by
  have hfloor := (locates_shifted he).bounds.1.trans_lt (scaled_lt m e)
  exact (roundedMantissa_bounds _).2.trans (Nat.succ_le_of_lt (by exact_mod_cast hfloor))

theorem le_mantissaOf (hm : 0 < m) (he : e ≤ exponentOf m e) (h : -1074 < exponentOf m e) :
    2 ^ 52 ≤ mantissaOf m e := by
  have hlow := le_scaled hm h
  refine ((locates_shifted he).le_roundedMantissa_iff _).mpr (.inl ?_)
  push_cast
  linarith

/-- The greatest mantissa is not worth more than the least one at a greater exponent. -/
theorem mul_two_zpow_le_of_lt {t u : ℤ} (h : t < u) : (2 ^ 53 * 2 ^ t : ℚ) ≤ 2 ^ 52 * 2 ^ u := by
  calc (2 ^ 53 * 2 ^ t : ℚ) = 2 ^ 52 * 2 ^ (t + 1) := by
        rw [zpow_add_one₀ two_ne_zero]
        ring
    _ ≤ 2 ^ 52 * 2 ^ u := by gcongr <;> [norm_num; omega]

/-- Rounding keeps the order of numbers that have all their digits. -/
theorem rounded_le (hm : 0 < m) (hn : 0 < n) (he : e ≤ exponentOf m e) (hf : f ≤ exponentOf n f)
    (hmin : -1074 < exponentOf m e) (hmin' : -1074 < exponentOf n f)
    (hle : (m * 2 ^ e : ℚ) ≤ n * 2 ^ f) :
    (mantissaOf m e * 2 ^ exponentOf m e : ℚ) ≤ mantissaOf n f * 2 ^ exponentOf n f := by
  rcases lt_trichotomy (exponentOf m e) (exponentOf n f) with hlt | heq | hgt
  · have hhigh : (mantissaOf m e : ℚ) ≤ 2 ^ 53 := by exact_mod_cast mantissaOf_le he
    have hlow : (2 ^ 52 : ℚ) ≤ mantissaOf n f := by exact_mod_cast le_mantissaOf hn hf hmin'
    calc (mantissaOf m e * 2 ^ exponentOf m e : ℚ) ≤ 2 ^ 53 * 2 ^ exponentOf m e := by gcongr
      _ ≤ 2 ^ 52 * 2 ^ exponentOf n f := mul_two_zpow_le_of_lt hlt
      _ ≤ mantissaOf n f * 2 ^ exponentOf n f := by gcongr
  · have hmantissa : mantissaOf m e ≤ mantissaOf n f :=
      (locates_shifted he).roundedMantissa_le_of_le (locates_shifted hf) (by rw [heq]; gcongr)
    rw [heq]
    gcongr
  · -- The greater number would be the lesser one.
    have hhigh := (div_lt_iff₀ (by positivity)).mp (scaled_lt n f)
    have hlow := (le_div_iff₀ (by positivity)).mp (le_scaled hm hmin)
    exact absurd hle (not_le.mpr (hhigh.trans_le ((mul_two_zpow_le_of_lt hgt).trans hlow)))

/-- A mantissa that fits is not shifted again. -/
theorem shiftToTargetExponent_of_lt (h : m < 2 ^ 53) (he : -1074 ≤ e) :
    shiftToTargetExponent Format.binary64 m e .exact = (⟨m, false, false⟩, e) := by
  have hlog : m.log2 ≤ 52 := by
    rcases Nat.eq_zero_or_pos m with rfl | hm
    · decide
    · exact Nat.lt_succ_iff.mp ((Nat.log2_lt hm.ne').mpr h)
  have hplaces : (exponentOf m e - e).toNat = 0 := by
    rw [exponentOf_eq]
    omega
  change (shifted m e, e + ((exponentOf m e - e).toNat : ℤ)) = _
  rw [shifted, hplaces]
  exact Prod.ext rfl (add_zero e)

/-- A mantissa that has become too long by rounding is shifted by one place. -/
theorem shiftToTargetExponent_two_pow (he : -1074 ≤ e) :
    shiftToTargetExponent Format.binary64 (2 ^ 53) e .exact = (⟨2 ^ 52, false, false⟩, e + 1) := by
  have hplaces : (exponentOf (2 ^ 53) e - e).toNat = 1 := by
    rw [exponentOf_eq, Nat.log2_two_pow]
    omega
  change (shifted (2 ^ 53) e, e + ((exponentOf (2 ^ 53) e - e).toNat : ℤ)) = _
  rw [shifted, hplaces]
  rfl

/-- The float next to a dyadic number. -/
theorem roundWithAccuracy_eq (he : e ≤ exponentOf m e) :
    roundWithAccuracy Format.binary64 sign m e .exact =
      if h : mantissaOf m e = 0 then .zero sign
      else if mantissaOf m e < 2 ^ 53 then
        .finite sign (mantissaOf m e) (exponentOf m e) (Nat.pos_of_ne_zero h)
      else .finite sign (2 ^ 52) (exponentOf m e + 1) (by decide) := by
  have hfirst : shiftToTargetExponent Format.binary64 m e .exact = (shifted m e, exponentOf m e) :=
    Prod.ext rfl (by change e + ((exponentOf m e - e).toNat : ℤ) = _; omega)
  have hleast : -1074 ≤ exponentOf m e := by
    rw [exponentOf_eq]
    omega
  have hle := mantissaOf_le he
  rw [roundWithAccuracy, hfirst]
  change (let last :=
      shiftToTargetExponent Format.binary64 (mantissaOf m e) (exponentOf m e) .exact
    if h : last.1.mantissa = 0 then UnpackedFloat.zero sign
    else .finite sign last.1.mantissa last.2 (Nat.pos_of_ne_zero h)) = _
  rcases hle.lt_or_eq with hlt | heq
  · rw [shiftToTargetExponent_of_lt hlt hleast]
    exact dite_congr rfl (fun _ => rfl) fun _ => (if_pos hlt).symm
  · generalize mantissaOf m e = mantissa at heq ⊢
    subst heq
    rw [shiftToTargetExponent_two_pow hleast]
    rfl

end SchemaPages.Number
