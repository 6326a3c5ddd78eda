import SchemaPages.Proofs.Number.Overflow

/-!
# Multiples of a float

A natural number becomes the nearest float (`isNearest_ofNat`), and greater ones become greater
floats (`IsNearest.magnitude_le`). So if a multiple of a float is finite, the smaller ones are too
(`isFinite_mul_ofNat_of_le`), and a finite multiple of a float that is not below zero is at least
zero (`zero_le_mul_ofNat`). Below `2 ^ 53` a natural number is a float as it is, and a multiple of a
float is finite if the sizes multiply to less than the bound (`isFinite_mul_ofNat_iff`).
-/

namespace SchemaPages.Number

open Float.Model UnpackedFloat

variable {x y : Float} {v w : ℚ} {m k n : ℕ} {e : ℤ} {sign : Sign}

/-! ### Natural numbers -/

/-- Whether a float is the one to which a positive number with a dyadic notation is rounded. -/
def IsNearest (x : Float) (value : ℚ) : Prop :=
  ∃ (m : ℕ) (e : ℤ), 0 < m ∧ e ≤ exponentOf m e ∧ (m * 2 ^ e : ℚ) = value ∧
    x.toModel = Float.Model.pack (roundWithAccuracy Format.binary64 .positive m e .exact)

theorem roundWithAccuracy_of_lt (hm : 0 < m) (h : m < 2 ^ 53) (he : -1074 ≤ e) :
    roundWithAccuracy Format.binary64 sign m e .exact = .finite sign m e hm := by
  have hround : (⟨m, false, false⟩ : ExtendedMantissa).roundedMantissa = m := rfl
  simp only [roundWithAccuracy, shiftToTargetExponent_of_lt h he, hround, hm.ne', dite_false]

theorem log2_shiftLeft {places : ℕ} (hm : 0 < m) : (m <<< places).log2 = m.log2 + places := by
  rw [Nat.shiftLeft_eq]
  refine (Nat.log2_eq_iff (by positivity)).mpr ⟨?_, ?_⟩
  · rw [pow_add]
    exact Nat.mul_le_mul_right _ (Nat.log2_self_le hm.ne')
  · rw [show m.log2 + places + 1 = m.log2 + 1 + places by omega, pow_add]
    exact Nat.mul_lt_mul_of_pos_right Nat.lt_log2_self (by positivity)

/-- A natural number below the greatest mantissa is a float. -/
theorem unpack_toFloat (hk : 0 < k) (h : k < 2 ^ 53) :
    ∃ (places : ℕ) (hm : 0 < k <<< places),
      k.toUInt64.toFloat.toModel.unpack = .finite .positive (k <<< places) (-places) hm := by
  have hlog : k.log2 < 53 := (Nat.log2_lt hk.ne').mpr h
  have hm : 0 < k <<< (52 - k.log2) := by
    rw [Nat.shiftLeft_eq]
    positivity
  have hdigits : (k <<< (52 - k.log2)).log2 = 52 := by
    rw [log2_shiftLeft hk]
    omega
  obtain ⟨hlow, hhigh⟩ := (Nat.log2_eq_iff hm.ne').mp hdigits
  have hword : k.toUInt64.toNat = k := by
    rw [Nat.toUInt64, UInt64.toNat_ofNat']
    exact Nat.mod_eq_of_lt (h.trans (by decide))
  have hplaces : (0 - exponentOf k 0).toNat = 52 - k.log2 := by
    rw [exponentOf_eq]
    omega
  have hround : UnpackedFloat.round Format.binary64 .positive k 0 =
      .finite .positive (k <<< (52 - k.log2)) (-((52 - k.log2 : ℕ) : ℤ)) hm := by
    change roundWithAccuracy Format.binary64 .positive (k <<< (0 - exponentOf k 0).toNat)
      (0 - ((0 - exponentOf k 0).toNat : ℤ)) .exact = _
    rw [hplaces, zero_sub, roundWithAccuracy_of_lt hm hhigh (by omega)]
  have hcompare : compare (k : ℤ) 0 = .gt := Int.compare_eq_gt.mpr (by omega)
  refine ⟨52 - k.log2, hm, ?_⟩
  change (Float.Model.pack
    (normalize Format.binary64 (k.toUInt64.toNat : ℤ) 0 .positive)).unpack = _
  rw [hword, UnpackedFloat.normalize.eq_def, hcompare]
  dsimp only
  rw [Int.toNat_natCast, hround]
  exact unpack_pack_of_normal hm hlow hhigh (by omega) (by omega)

theorem unpack_one :
    (Float.exactlyRepresentablePowersOfTen[0]).toModel.unpack =
      .finite .positive (2 ^ 52) (-52) (by decide) := by
  rfl

theorem toModel_mul (x y : Float) :
    (x * y).toModel = Float.Model.pack
      (UnpackedFloat.mul Format.binary64 x.toModel.unpack y.toModel.unpack) :=
  rfl

theorem ofScientific_zero (hk : 0 < k) :
    UnpackedFloat.ofScientific Format.binary64 k 0 =
      roundWithAccuracy Format.binary64 .positive (k <<< 53) (-(53 : ℕ)) .exact := by
  have hbits : Format.binary64.mantissaBits = 53 := rfl
  have hrange : Format.binary64.exponentBits = 11 := rfl
  have hsign : (.positive * .positive : Sign) = .positive := rfl
  rw [UnpackedFloat.ofScientific, dif_neg hk.ne', if_neg (by decide),
    if_neg (by rw [hrange]; omega), if_pos le_rfl, UnpackedFloat.mul, hbits, hsign, Int.toNat_zero,
    pow_zero, mul_one, add_zero]

theorem isNearest_of_toModel {places : ℕ} (hk : 0 < k) (hplaces : 52 ≤ places)
    (h : x.toModel = Float.Model.pack
      (roundWithAccuracy Format.binary64 .positive (k <<< places) (-places) .exact)) :
    IsNearest x k := by
  refine ⟨k <<< places, -places, ?_, ?_, ?_, h⟩
  · rw [Nat.shiftLeft_eq]
    positivity
  · rw [exponentOf_eq, log2_shiftLeft hk]
    omega
  · rw [Nat.shiftLeft_eq, Nat.cast_mul, Nat.cast_pow, Nat.cast_two, zpow_neg, zpow_natCast,
      mul_assoc, mul_inv_cancel₀ (pow_ne_zero _ two_ne_zero), mul_one]

/-- A natural number is turned into the nearest float. -/
theorem isNearest_ofNat (hk : 0 < k) : IsNearest (Float.ofNat k) k := by
  by_cases hsmall : k < 2 ^ 53
  · -- It is a float already, and multiplying by one does not change it.
    obtain ⟨places, hm, hunpack⟩ := unpack_toFloat hk hsmall
    have hproduct : Float.ofNat k =
        k.toUInt64.toFloat * Float.exactlyRepresentablePowersOfTen[0] :=
      dif_pos ⟨hsmall, by decide⟩
    have hmul : UnpackedFloat.mul Format.binary64 (.finite .positive (k <<< places) (-places) hm)
        (.finite .positive (2 ^ 52) (-52) (by decide)) =
          roundWithAccuracy Format.binary64 .positive (k <<< places * 2 ^ 52) (-places + -52)
            .exact :=
      rfl
    have hexponent : (-(places + 52 : ℕ) : ℤ) = -places + -52 := by omega
    refine isNearest_of_toModel hk (Nat.le_add_left 52 places) ?_
    rw [hproduct, toModel_mul, hunpack, unpack_one, hmul, Nat.shiftLeft_add,
      Nat.shiftLeft_eq _ 52, hexponent]
  · have hlarge : Float.ofNat k = ⟨Float.Model.ofScientific k 0⟩ :=
      dif_neg fun h => hsmall h.1
    refine isNearest_of_toModel hk (by decide : 52 ≤ 53) ?_
    rw [hlarge, ← ofScientific_zero hk]
    rfl

/-- A number is rounded to a finite float exactly if it is below the bound. -/
theorem IsNearest.isFinite_iff (h : IsNearest x v) : x.isFinite = true ↔ v < floatBound := by
  obtain ⟨m, e, hm, he, rfl, hx⟩ := h
  have hround : (Float.Model.pack
      (roundWithAccuracy Format.binary64 .positive m e .exact)).isFinite = true ↔
        (m * 2 ^ e : ℚ) < floatBound := isFinite_round_iff hm he
  rw [← hround, ← hx]
  rfl

theorem IsNearest.zero_le (h : IsNearest x v) (hfinite : x.isFinite = true) : 0 ≤ x := by
  obtain ⟨m, e, -, -, -, hx⟩ := h
  have hpacked : (Float.Model.pack
      (roundWithAccuracy Format.binary64 .positive m e .exact)).isFinite = true := hx ▸ hfinite
  rw [zero_le_iff, hx]
  exact notNegative_pack (notNegative_roundWithAccuracy m e) hpacked

/-- The size of a float is its rounded mantissa at its exponent, unless it is tiny. -/
theorem magnitudeOf_pack (hm : 0 < m) (he : e ≤ exponentOf m e) (hnormal : -1074 < exponentOf m e)
    (hfinite : (Float.Model.pack
      (roundWithAccuracy Format.binary64 sign m e .exact)).isFinite = true) :
    magnitudeOf (Float.Model.pack (roundWithAccuracy Format.binary64 sign m e .exact)).unpack =
      mantissaOf m e * 2 ^ exponentOf m e := by
  have hlow := le_mantissaOf hm he hnormal
  have hexponent := (isFinite_round_iff_exponentOf hm he).mp hfinite
  rw [roundWithAccuracy_eq he, dif_neg (by omega)]
  split
  · next hlt =>
    rw [unpack_pack_of_normal _ hlow hlt hnormal.le (by omega)]
    rfl
  · next hge =>
    have hcarry : mantissaOf m e = 2 ^ 53 := le_antisymm (mantissaOf_le he) (not_lt.mp hge)
    rw [unpack_pack_of_normal _ le_rfl (by decide) (by omega) (by omega), hcarry, magnitudeOf,
      zpow_add_one₀ two_ne_zero]
    push_cast
    ring

/-- From one on, floats have all their digits. -/
theorem exponentOf_of_one_le (h : (1 : ℚ) ≤ m * 2 ^ e) : -53 < exponentOf m e := by
  have hlt : (1 : ℚ) < 2 ^ (53 + exponentOf m e) := by
    rw [zpow_add₀ two_ne_zero]
    exact h.trans_lt ((div_lt_iff₀ (by positivity)).mp (scaled_lt m e))
  have := (one_lt_zpow_iff_right₀ one_lt_two).mp hlt
  omega

/-- Greater numbers are rounded to greater floats. -/
theorem IsNearest.magnitude_le (h : IsNearest x v) (h' : IsNearest y w)
    (hone : 1 ≤ v) (hle : v ≤ w) (hx : x.isFinite = true) (hy : y.isFinite = true) :
    magnitude x ≤ magnitude y := by
  obtain ⟨m, e, hm, he, rfl, hxm⟩ := h
  obtain ⟨n, f, hn, hf, rfl, hym⟩ := h'
  have he' := exponentOf_of_one_le hone
  have hf' := exponentOf_of_one_le (hone.trans hle)
  rw [magnitude, magnitude, hxm, hym,
    magnitudeOf_pack hm he (by omega) (by rw [← hxm]; exact hx),
    magnitudeOf_pack hn hf (by omega) (by rw [← hym]; exact hy)]
  exact rounded_le hm hn he hf (by omega) (by omega) hle

theorem cast_lt_floatBound (h : k < 2 ^ 53) : (k : ℚ) < floatBound :=
  Nat.cast_lt.mpr (h.trans (by decide +kernel))

/-- A natural number below the greatest mantissa keeps its size. -/
theorem magnitude_ofNat (hk : 0 < k) (h : k < 2 ^ 53) : magnitude (Float.ofNat k) = k := by
  have hfinite := (isNearest_ofNat hk).isFinite_iff.mpr (cast_lt_floatBound h)
  obtain ⟨m, e, hm, he, hvalue, hx⟩ := isNearest_ofNat hk
  have hnormal := exponentOf_of_one_le (hvalue ▸ Nat.one_le_cast.mpr hk)
  have hsmall : exponentOf m e ≤ 0 := by
    have hlow := (le_div_iff₀ (by positivity)).mp (le_scaled (e := e) hm (by omega))
    have hhigh : (k : ℚ) < 2 ^ 53 := by exact_mod_cast h
    have hpower : (2 : ℚ) ^ exponentOf m e < 2 ^ (1 : ℤ) := by
      rw [hvalue] at hlow
      rw [zpow_one]
      linarith
    have := (zpow_lt_zpow_iff_right₀ one_lt_two).mp hpower
    omega
  obtain ⟨places, hplaces⟩ := Int.exists_eq_neg_ofNat hsmall
  have hinteger : (m * 2 ^ e / 2 ^ exponentOf m e : ℚ) = (k * 2 ^ places : ℕ) := by
    rw [hvalue, hplaces, zpow_neg, zpow_natCast, div_inv_eq_mul]
    push_cast
    rfl
  have hmantissa : mantissaOf m e = k * 2 ^ places :=
    Locates.roundedMantissa_eq (hinteger ▸ locates_shifted he)
  rw [magnitude, hx, magnitudeOf_pack hm he (by omega) (by rw [← hx]; exact hfinite), hmantissa,
    hplaces, zpow_neg, zpow_natCast]
  push_cast
  rw [mul_assoc, mul_inv_cancel₀ (pow_ne_zero _ two_ne_zero), mul_one]

/-! ### Multiples -/

theorem magnitude_nonneg (x : Float) : 0 ≤ magnitude x := by
  rw [magnitude]
  cases x.toModel.unpack with
  | finite sign m e hm => exact mul_nonneg (Nat.cast_nonneg m) (zpow_nonneg two_pos.le e)
  | _ => exact le_rfl

/-- If a multiple of a float is finite, so are the smaller ones. -/
theorem isFinite_mul_ofNat_of_le (hk : 0 < k) (hle : k ≤ n)
    (h : (x * Float.ofNat n).isFinite = true) : (x * Float.ofNat k).isFinite = true := by
  obtain ⟨hx, hn, hbound⟩ := (isFinite_mul_iff x _).mp h
  have hnear := isNearest_ofNat hk
  have hnear' := isNearest_ofNat (hk.trans_le hle)
  have hcast : (k : ℚ) ≤ n := Nat.cast_le.mpr hle
  have hfinite := hnear.isFinite_iff.mpr (hcast.trans_lt (hnear'.isFinite_iff.mp hn))
  have hsize := hnear.magnitude_le hnear' (Nat.one_le_cast.mpr hk) hcast hfinite hn
  refine (isFinite_mul_iff x _).mpr ⟨hx, hfinite, lt_of_le_of_lt ?_ hbound⟩
  exact mul_le_mul_of_nonneg_left hsize (magnitude_nonneg x)

/-- When a multiple of a float is finite. -/
theorem isFinite_mul_ofNat_iff (hk : 0 < k) (h : k < 2 ^ 53) :
    (x * Float.ofNat k).isFinite = true ↔ x.isFinite = true ∧ magnitude x * k < floatBound := by
  have hfinite := (isNearest_ofNat hk).isFinite_iff.mpr (cast_lt_floatBound h)
  rw [isFinite_mul_iff, magnitude_ofNat hk h]
  simp only [hfinite, true_and]

theorem not_isNaN_of_isFinite (h : x.isFinite = true) : ¬ x.isNaN = true := by
  change x.toModel.unpack.isFinite = true at h
  change ¬ x.toModel.unpack.isNaN = true
  cases hx : x.toModel.unpack <;> simp_all [UnpackedFloat.isFinite, UnpackedFloat.isNaN]

/-- A multiple of a float that is not negative is not negative, unless it is not finite. -/
theorem zero_le_mul_ofNat (hx : ¬ x < 0) (hk : 0 < k)
    (h : (x * Float.ofNat k).isFinite = true) : 0 ≤ x * Float.ofNat k := by
  obtain ⟨hxfinite, hkfinite, -⟩ := (isFinite_mul_iff x _).mp h
  exact zero_le_mul (((not_lt_zero_iff x).mp hx).resolve_left (not_isNaN_of_isFinite hxfinite))
    ((isNearest_ofNat hk).zero_le hkfinite) h

end SchemaPages.Number
