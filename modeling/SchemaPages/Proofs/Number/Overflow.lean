import Mathlib
import SchemaPages.Number.Literal
import SchemaPages.Proofs.Number.Rounding

/-!
# Floats out of range

A rounded number is a finite float exactly if it is below `floatBound`, the greatest float plus half
of the distance to the next power of two (`isFinite_round_iff`). The size of a product is the
product of the sizes, rounded, so a product is finite exactly if its factors are and their sizes
multiply to less than the bound (`isFinite_mul_iff`). A finite product of floats that are not
negative is not negative either (`zero_le_mul`).

How the parts of a float are packed and unpacked is in no part of the library that could be named,
so all of it is imported here.
-/

namespace SchemaPages.Number

open Float.Model UnpackedFloat

variable {m : ℕ} {e : ℤ} {sign : Sign}

/-! ### Bits -/

/-- Only the exponent says whether a float is finite. -/
theorem isFinite_unpack (word : BitVec 64) :
    (UnpackedFloat.unpack Format.binary64 word).isFinite = true ↔
      @unpackExponent Format.binary64 word ≠ -1#11 := by
  rw [UnpackedFloat.unpack]
  split
  · split <;> simp_all [UnpackedFloat.isFinite]
  · split
    · split <;> simp_all [UnpackedFloat.isFinite]
    · simp_all [UnpackedFloat.isFinite]

/-- The exponents of finite floats are not the one of infinity. -/
theorem ofNat_ne_allOnes {field : ℕ} (h : field + 1 < 2 ^ 11) : BitVec.ofNat 11 field ≠ -1#11 := by
  intro heq
  have hvalue := congrArg BitVec.toNat heq
  rw [BitVec.toNat_ofNat, Nat.mod_eq_of_lt (by omega)] at hvalue
  have hones : (-1#11).toNat = 2 ^ 11 - 1 := by decide
  omega

/-- A packed mantissa is a finite float unless its exponent is too great. -/
theorem isFinite_pack_finite (hm : 0 < m) :
    (Float.Model.pack (.finite sign m e hm)).isFinite = true ↔ e ≤ 971 := by
  have hbits : (Float.Model.pack (.finite sign m e hm)).isFinite =
      (UnpackedFloat.unpack Format.binary64
        (UnpackedFloat.pack Format.binary64 (.finite sign m e hm))).isFinite :=
    rfl
  have hbias : Format.binary64.exponentBias = 1023 := rfl
  rw [hbits, isFinite_unpack, UnpackedFloat.pack]
  dsimp only
  split
  · next hlarge =>
    refine iff_of_false (by simp [packedInfinity]) ?_
    change 2 ^ 11 ≤ _ at hlarge
    omega
  · next hsmall =>
    change ¬ 2 ^ 11 ≤ _ at hsmall
    have hexponent : e ≤ 971 := by omega
    split
    · rw [unpackExponent_packComponents]
      exact iff_of_true (ofNat_ne_allOnes (by omega)) hexponent
    · rw [unpackExponent_packComponents]
      exact iff_of_true (by decide) hexponent

/-- A dyadic number is a finite float unless its exponent is too great, be it by rounding. -/
theorem isFinite_round_iff_exponentOf (hm : 0 < m) (he : e ≤ exponentOf m e) :
    (Float.Model.pack (roundWithAccuracy Format.binary64 sign m e .exact)).isFinite = true ↔
      exponentOf m e ≤ 970 ∨ exponentOf m e = 971 ∧ mantissaOf m e < 2 ^ 53 := by
  rw [roundWithAccuracy_eq he]
  by_cases hzero : mantissaOf m e = 0
  · -- Only a number that is nearly zero is rounded to zero.
    have hleast : ¬ -1074 < exponentOf m e := fun h => by
      have := le_mantissaOf hm he h
      omega
    simp only [hzero, dite_true]
    exact iff_of_true (by cases sign <;> rfl) (.inl (by omega))
  · simp only [hzero, dite_false]
    split
    · next hlt =>
      rw [isFinite_pack_finite]
      omega
    · next hge =>
      rw [isFinite_pack_finite]
      omega

/-- The bound is the middle between the greatest float and the next power of two. -/
theorem cast_floatBound : (floatBound : ℚ) = (2 ^ 53 - 1 / 2) * 2 ^ (971 : ℤ) := by
  have hsplit : floatBound = (2 ^ 54 - 1) * 2 ^ 970 := by decide +kernel
  have hdigits : ((2 ^ 54 - 1 : ℕ) : ℚ) = (2 ^ 53 - 1 / 2) * 2 := by norm_num
  have hplace : (2 : ℚ) ^ (971 : ℤ) = 2 * 2 ^ 970 := by
    rw [show (971 : ℤ) = 1 + 970 from rfl, zpow_one_add₀ two_ne_zero, zpow_ofNat]
  rw [hsplit, Nat.cast_mul, hdigits, Nat.cast_pow, Nat.cast_two, hplace, mul_assoc]

/-- **Overflow.** A dyadic number is rounded to a finite float exactly if it exceeds the greatest
one by less than half of the distance to the next power of two. -/
theorem isFinite_round_iff (hm : 0 < m) (he : e ≤ exponentOf m e) :
    (Float.Model.pack (roundWithAccuracy Format.binary64 sign m e .exact)).isFinite = true ↔
      (m * 2 ^ e : ℚ) < floatBound := by
  have hvalue : (m * 2 ^ e : ℚ) = m * 2 ^ e / 2 ^ exponentOf m e * 2 ^ exponentOf m e :=
    (div_mul_cancel₀ _ (zpow_ne_zero _ two_ne_zero)).symm
  have hround : 2 ^ 53 ≤ mantissaOf m e ↔
      (2 ^ 53 - 1 / 2 : ℚ) ≤ m * 2 ^ e / 2 ^ exponentOf m e := by
    have heven := (locates_shifted he).le_roundedMantissa_iff_of_even (r := 2 ^ 53) (by decide)
    rwa [Nat.cast_pow, Nat.cast_two] at heven
  have hlow := le_scaled (e := e) hm
  have hhigh := scaled_lt m e
  have hpower : 0 < (2 ^ exponentOf m e : ℚ) := by positivity
  rw [isFinite_round_iff_exponentOf hm he, cast_floatBound, hvalue]
  generalize (m * 2 ^ e / 2 ^ exponentOf m e : ℚ) = x at *
  rcases lt_trichotomy (exponentOf m e) 971 with ht | ht | ht
  · refine iff_of_true (.inl (by omega)) ?_
    calc x * 2 ^ exponentOf m e < 2 ^ 53 * 2 ^ exponentOf m e := by gcongr
      _ ≤ 2 ^ 52 * 2 ^ (971 : ℤ) := mul_two_zpow_le_of_lt ht
      _ ≤ (2 ^ 53 - 1 / 2) * 2 ^ (971 : ℤ) := by gcongr; norm_num
  · have hlt : mantissaOf m e < 2 ^ 53 ↔ x < 2 ^ 53 - 1 / 2 := by rw [← not_le, hround, not_le]
    rw [ht] at hpower ⊢
    rw [mul_lt_mul_iff_left₀ hpower, ← hlt]
    omega
  · refine iff_of_false (by omega) (not_lt.mpr ?_)
    have hx : 2 ^ 52 ≤ x := hlow (by omega)
    calc (2 ^ 53 - 1 / 2) * 2 ^ (971 : ℤ) ≤ (2 ^ 53 : ℚ) * 2 ^ (971 : ℤ) := by gcongr; norm_num
      _ ≤ 2 ^ 52 * 2 ^ exponentOf m e := mul_two_zpow_le_of_lt ht
      _ ≤ x * 2 ^ exponentOf m e := by gcongr

/-! ### Products -/

/-- The size of a finite float. -/
def magnitudeOf : UnpackedFloat → ℚ
  | .finite _ m e _ => m * 2 ^ e
  | _ => 0

/-- The size of a float, if it is finite. -/
def magnitude (x : Float) : ℚ :=
  magnitudeOf x.toModel.unpack

/-- Whether a mantissa has all its digits unless the exponent is the least one. -/
def Canonical : UnpackedFloat → Prop
  | .finite _ m e _ => 2 ^ 52 ≤ m ∨ e = -1074
  | _ => True

theorem canonical_unpack (word : BitVec 64) :
    Canonical (UnpackedFloat.unpack Format.binary64 word) := by
  rw [UnpackedFloat.unpack]
  split
  · split <;> trivial
  · split
    · next hleast =>
      split
      · trivial
      · refine .inr ?_
        rw [hleast]
        rfl
    · refine .inl ?_
      rw [BitVec.toNat_append]
      exact (Nat.le_of_eq rfl).trans Nat.left_le_or

/-- The exact product of two floats is not finer than the float it is rounded to. -/
theorem le_exponentOf_mul {m n : ℕ} {e f : ℤ} (hm : 0 < m) (hn : 0 < n)
    (h : 2 ^ 52 ≤ m ∨ e = -1074) (h' : 2 ^ 52 ≤ n ∨ f = -1074) :
    e + f ≤ exponentOf (m * n) (e + f) := by
  have hdigits : 2 ^ 52 ≤ m ∨ 2 ^ 52 ≤ n → 52 ≤ (m * n).log2 := by
    rw [Nat.le_log2 (Nat.mul_pos hm hn).ne']
    rintro (hlong | hlong)
    · exact hlong.trans (Nat.le_mul_of_pos_right m hn)
    · exact hlong.trans (Nat.le_mul_of_pos_left n hm)
  rw [exponentOf_eq]
  by_cases hlong : 2 ^ 52 ≤ m ∨ 2 ^ 52 ≤ n
  · have := hdigits hlong
    omega
  · obtain ⟨hm', hn'⟩ := not_or.mp hlong
    have := h.resolve_left hm'
    have := h'.resolve_left hn'
    omega

theorem isFinite_pack_infinity (sign : Sign) :
    (Float.Model.pack (.infinity sign)).isFinite = false := by
  cases sign <;> rfl

theorem isFinite_pack_zero (sign : Sign) : (Float.Model.pack (.zero sign)).isFinite = true := by
  cases sign <;> rfl

theorem isFinite_pack_notANumber : (Float.Model.pack .notANumber).isFinite = false := rfl

theorem floatBound_pos : (0 : ℚ) < floatBound := by
  rw [cast_floatBound]
  exact mul_pos (by norm_num) (zpow_pos two_pos 971)

theorem isFinite_mul_unpacked_iff {u v : UnpackedFloat} (hu : Canonical u) (hv : Canonical v) :
    (Float.Model.pack (UnpackedFloat.mul Format.binary64 u v)).isFinite = true ↔
      u.isFinite = true ∧ v.isFinite = true ∧ magnitudeOf u * magnitudeOf v < floatBound := by
  have hbound := floatBound_pos
  cases u <;> cases v <;>
    simp only [UnpackedFloat.mul, UnpackedFloat.isFinite, isFinite_pack_infinity,
      isFinite_pack_zero, isFinite_pack_notANumber, magnitudeOf, zero_mul, mul_zero,
      Bool.false_eq_true, false_and, and_false, true_and, hbound]
  next s m e hm s' n f hn =>
    rw [isFinite_round_iff (Nat.mul_pos hm hn) (le_exponentOf_mul hm hn hu hv)]
    have hproduct : ((m * n : ℕ) * 2 ^ (e + f) : ℚ) = m * 2 ^ e * (n * 2 ^ f) := by
      rw [Nat.cast_mul, zpow_add₀ two_ne_zero, mul_mul_mul_comm]
    rw [hproduct]

/-- **Products.** A product of floats is finite exactly if both of them are finite and their sizes
multiply to something below the bound. -/
theorem isFinite_mul_iff (x y : Float) :
    (x * y).isFinite = true ↔
      x.isFinite = true ∧ y.isFinite = true ∧ magnitude x * magnitude y < floatBound :=
  isFinite_mul_unpacked_iff (canonical_unpack _) (canonical_unpack _)

/-! ### Signs -/

/-- Whether a float is zero or positive. -/
def NotNegative : UnpackedFloat → Prop
  | .notANumber => False
  | .zero _ => True
  | .infinity sign | .finite sign _ _ _ => sign = .positive

theorem unpack_zero : (0 : Float).toModel.unpack = .zero .positive := by
  rfl

theorem zero_le_iff (x : Float) : 0 ≤ x ↔ NotNegative x.toModel.unpack := by
  change (decide ((0 : Float).toModel.unpack.le x.toModel.unpack = true)) = true ↔ _
  rw [unpack_zero, decide_eq_true_iff]
  rcases x.toModel.unpack with (_ | _) | _ | _ | ⟨_ | _⟩ <;>
    simp [NotNegative, UnpackedFloat.le, UnpackedFloat.compare]

theorem not_lt_zero_iff (x : Float) : ¬ x < 0 ↔ x.isNaN = true ∨ 0 ≤ x := by
  rw [zero_le_iff]
  change ¬ (decide (x.toModel.unpack.lt (0 : Float).toModel.unpack = true)) = true ↔
    x.toModel.unpack.isNaN = true ∨ _
  rw [unpack_zero, decide_eq_true_iff]
  rcases x.toModel.unpack with (_ | _) | _ | _ | ⟨_ | _⟩ <;>
    simp [NotNegative, UnpackedFloat.lt, UnpackedFloat.compare, UnpackedFloat.isNaN]

theorem unpackSign_pack_positive (hm : 0 < m) :
    unpackSign (UnpackedFloat.pack Format.binary64 (.finite .positive m e hm)) = 0#1 := by
  rw [UnpackedFloat.pack]
  dsimp only
  split
  · exact unpackSign_packComponents _ _ _
  · split <;> exact unpackSign_packComponents _ _ _

theorem notNegative_unpack {word : BitVec 64}
    (hfinite : @unpackExponent Format.binary64 word ≠ -1#11)
    (hsign : @unpackSign Format.binary64 word = 0#1) :
    NotNegative (UnpackedFloat.unpack Format.binary64 word) := by
  have hpositive : Sign.ofBitVec (@unpackSign Format.binary64 word) = .positive := by
    rw [hsign]
    rfl
  rw [UnpackedFloat.unpack]
  split
  · next hones => exact absurd hones hfinite
  · split
    · split
      · trivial
      · exact hpositive
    · exact hpositive

/-- Packing keeps the sign of what stays finite. -/
theorem notNegative_pack {u : UnpackedFloat} (h : NotNegative u)
    (hfinite : (Float.Model.pack u).isFinite = true) :
    NotNegative (Float.Model.pack u).unpack := by
  cases u with
  | notANumber => cases h
  | infinity sign =>
    rw [isFinite_pack_infinity] at hfinite
    cases hfinite
  | zero sign => cases sign <;> trivial
  | finite sign m e hm =>
    cases (h : sign = .positive)
    exact notNegative_unpack ((isFinite_unpack _).mp hfinite) (unpackSign_pack_positive hm)

theorem notNegative_roundWithAccuracy (m : ℕ) (e : ℤ) :
    NotNegative (roundWithAccuracy Format.binary64 .positive m e .exact) := by
  rw [roundWithAccuracy]
  dsimp only
  split <;> trivial

theorem notNegative_mul {u v : UnpackedFloat} (hu : NotNegative u) (hv : NotNegative v)
    (hfinite : u.isFinite = true) (hfinite' : v.isFinite = true) :
    NotNegative (UnpackedFloat.mul Format.binary64 u v) := by
  cases u with
  | notANumber | infinity => cases hfinite
  | zero sign =>
    cases v with
    | notANumber | infinity => cases hfinite'
    | zero | finite => trivial
  | finite sign m e hm =>
    cases (hu : sign = .positive)
    cases v with
    | notANumber | infinity => cases hfinite'
    | zero => trivial
    | finite sign n f hn =>
      cases (hv : sign = .positive)
      exact notNegative_roundWithAccuracy (m * n) (e + f)

/-- A product of floats that are not negative is not negative if it is finite. -/
theorem zero_le_mul {x y : Float} (hx : 0 ≤ x) (hy : 0 ≤ y) (hfinite : (x * y).isFinite = true) :
    0 ≤ x * y := by
  obtain ⟨hxfinite, hyfinite, -⟩ := (isFinite_mul_iff x y).mp hfinite
  rw [zero_le_iff] at hx hy ⊢
  exact notNegative_pack (notNegative_mul hx hy hxfinite hyfinite) hfinite

/-! ### Floats with all their digits -/

/-- The first digit of a mantissa is left out. -/
theorem toNat_implicit (hlow : 2 ^ 52 ≤ m) (hhigh : m < 2 ^ 53) :
    (1#1 ++ BitVec.ofNat 52 m).toNat = m := by
  rw [BitVec.toNat_append, ← Nat.shiftLeft_add_eq_or_of_lt (BitVec.isLt _), BitVec.toNat_ofNat,
    BitVec.toNat_ofNat, Nat.shiftLeft_eq]
  omega

theorem ofNat_ne_zero {field : ℕ} (hpos : 0 < field) (h : field + 1 < 2 ^ 11) :
    BitVec.ofNat 11 field ≠ 0#11 := by
  intro heq
  have hvalue := congrArg BitVec.toNat heq
  rw [BitVec.toNat_ofNat, BitVec.toNat_ofNat, Nat.mod_eq_of_lt (by omega)] at hvalue
  omega

theorem unpack_packComponents_of_normal {field : ℕ} (hm : 0 < m) (hlow : 2 ^ 52 ≤ m)
    (hhigh : m < 2 ^ 53) (hpos : 0 < field) (h : field + 1 < 2 ^ 11) :
    UnpackedFloat.unpack Format.binary64
        (packComponents Format.binary64 sign (BitVec.ofNat 11 field) (BitVec.ofNat 52 m)) =
      .finite sign m (field - 1075) hm := by
  have hbias : (Format.binary64.exponentBias : ℤ) = 1023 := rfl
  have hfield : (BitVec.ofNat 11 field).toNat = field := by
    rw [BitVec.toNat_ofNat, Nat.mod_eq_of_lt (by omega)]
  rw [UnpackedFloat.unpack]
  simp only [unpackExponent_packComponents, unpackMantissa_packComponents,
    unpackSign_packComponents, Sign.ofBitVec_toBitVec, ofNat_ne_allOnes h, ofNat_ne_zero hpos h,
    if_false, toNat_implicit hlow hhigh, hfield, hbias]
  rfl

/-- A float with all its digits is packed as it is. -/
theorem unpack_pack_of_normal (hm : 0 < m) (hlow : 2 ^ 52 ≤ m) (hhigh : m < 2 ^ 53)
    (he : -1074 ≤ e) (he' : e ≤ 971) :
    (Float.Model.pack (.finite sign m e hm)).unpack = .finite sign m e hm := by
  obtain ⟨field, rfl⟩ : ∃ field : ℕ, e = field - 1075 := ⟨(e + 1075).toNat, by omega⟩
  have hlog : m.log2 + 1 = Format.binary64.mantissaBits := by
    rw [(Nat.log2_eq_iff hm.ne').mpr ⟨hlow, hhigh⟩]
    rfl
  have hbias : (Format.binary64.exponentBias : ℤ) = 1023 := rfl
  have hfield : ((field - 1075 : ℤ) + Format.binary64.exponentBias + (52 : ℕ)).toNat = field := by
    omega
  have hpacked : UnpackedFloat.pack Format.binary64 (.finite sign m (field - 1075) hm) =
      packComponents Format.binary64 sign (BitVec.ofNat 11 field) (BitVec.ofNat 52 m) := by
    rw [UnpackedFloat.pack]
    simp only [hfield]
    rw [if_neg (by omega), if_pos hlog]
  change UnpackedFloat.unpack Format.binary64
    (UnpackedFloat.pack Format.binary64 (.finite sign m (field - 1075) hm)) = _
  rw [hpacked, unpack_packComponents_of_normal hm hlow hhigh (by omega) (by omega)]

end SchemaPages.Number
