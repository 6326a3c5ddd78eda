import SchemaPages.Proofs.Number.Literal
import SchemaPages.Proofs.Shared.Numbers
import SchemaPages.Yaml.Value

/-!
# The values of words and numbers in both notations

The words of JSON for the missing value and the truth values mean the same in YAML, and a number
that is known as one has its value: all digits are read, and the float is the one next to the number
(`Numeral.readFloat_chars`). The other numbers, and the words for special floats, are texts. So
every plain value is read without a fault, unless it is too long an integer (`Plain.ofText_eq`).
-/

namespace SchemaPages.Number

variable {c : Char} {text rest : List Char}

/-! ### Digits of decimals -/

theorem decimalDigit?_of_isDigit (h : c.isDigit) : decimalDigit? c = some (c.toNat - 48) := by
  obtain ⟨hlow, hhigh⟩ := toNat_of_isDigit h
  have hzero : zeroCodes.find? (fun z => z ≤ c.toNat && c.toNat < z + 10) = some 48 :=
    List.find?_cons_of_pos (by simp; omega)
  rw [decimalDigit?, hzero, Option.map_some]

theorem toLower_of_isDigit (h : c.isDigit) : c.toLower = c := by
  obtain ⟨-, hhigh⟩ := toNat_of_isDigit h
  refine dif_neg fun hletter => ?_
  have hlow : 65 ≤ c.toNat := UInt32.le_iff_toNat_le.mp hletter.1
  omega

/-- The number that digits write is the number of their values. -/
theorem ofDigits_map (text : List Char) :
    ofDigits (text.map fun c => c.toNat - '0'.toNat) = Nat.ofDigitChars 10 text 0 := by
  rw [ofDigits, List.foldl_map]
  rfl

theorem leadingDigits_append (hdigits : ∀ c ∈ text, c.isDigit)
    (hrest : ∀ c ∈ rest.head?, decimalDigit? c = none) :
    leadingDigits (text ++ rest) = (text.map fun c => c.toNat - '0'.toNat, rest) := by
  induction text with
  | nil =>
    cases rest with
    | nil => rfl
    | cons c more =>
      rw [List.nil_append, leadingDigits, hrest c rfl]
      rfl
  | cons c text ih =>
    obtain ⟨hc, htext⟩ := List.forall_mem_cons.mp hdigits
    rw [List.cons_append, leadingDigits, decimalDigit?_of_isDigit hc, ih htext]
    rfl

/-- A decimal with a point is read on both sides of it. -/
theorem readDecimal_point {whole fraction : List Nat} {more : List Char}
    (hwhole : leadingDigits text = (whole, '.' :: more)) (hne : whole ≠ [])
    (hfraction : leadingDigits more = (fraction, rest)) :
    readDecimal text = (readExponent rest).map fun e =>
      nearestFloat (ofDigits (whole ++ fraction)) (e - fraction.length) := by
  simp [readDecimal, hwhole, hfraction, hne]

/-- A decimal without a point has no fraction. -/
theorem readDecimal_of_head?_ne {whole : List Nat} (hwhole : leadingDigits text = (whole, rest))
    (hne : whole ≠ []) (hpoint : rest.head? ≠ some '.') :
    readDecimal text = (readExponent rest).map fun e => nearestFloat (ofDigits whole) e := by
  rcases rest with _ | ⟨c, more⟩
  · simp [readDecimal, hwhole, hne]
  · have hc : c ≠ '.' := fun heq => hpoint (congrArg some heq)
    simp [readDecimal, hwhole, hne, hc]

/-- What starts with a digit is no word. -/
theorem readUnsignedFloat_of_isDigit (h : c.isDigit) :
    readUnsignedFloat (c :: text) = readDecimal (c :: text) := by
  have hlower : c.toLower = c := toLower_of_isDigit h
  have hword : ∀ word : String, (word.toList.head?.all fun d => !d.isDigit) →
      decide (String.ofList ((c :: text).map Char.toLower) = word) = false := by
    intro word hall
    refine decide_eq_false ?_
    rintro rfl
    rw [String.toList_ofList, List.map_cons, hlower, List.head?_cons, Option.all_some, h] at hall
    cases hall
  rw [readUnsignedFloat, hword "inf" (by decide), hword "infinity" (by decide)]
  exact if_neg (of_decide_eq_false (hword "nan" (by decide)))

end SchemaPages.Number

namespace SchemaPages.Yaml.Plain

variable {c : Char}

/-! ### Characters of numbers -/

theorem toNat_of_isLexemeChar (h : isLexemeChar c) : 43 ≤ c.toNat ∧ c.toNat < 0x80 := by
  change (decide ('A' ≤ c ∧ c ≤ 'Z') || (decide ('a' ≤ c) && decide (c ≤ 'z')) || c.isDigit ||
    c = '+' || c = '-' || c = '.') = true at h
  simp only [Char.isDigit, Bool.or_eq_true, Bool.and_eq_true, decide_eq_true_eq,
    UInt32.le_iff_toNat_le] at h
  rcases h with ((((h | h) | h) | rfl) | rfl) | rfl
  · change 65 ≤ c.toNat ∧ c.toNat ≤ 90 at h
    omega
  · change 97 ≤ c.toNat ∧ c.toNat ≤ 122 at h
    omega
  · change 48 ≤ c.toNat ∧ c.toNat ≤ 57 at h
    omega
  · decide
  · decide
  · decide

theorem isPadding_of_isLexemeChar (h : isLexemeChar c) : Number.isPadding c = false := by
  obtain ⟨hlow, hhigh⟩ := toNat_of_isLexemeChar h
  simp [Number.isPadding, Text.isBlank, Text.blankCodes]
  omega

end SchemaPages.Yaml.Plain

namespace SchemaPages.Text

/-- Letters below U+0080 have their own lower case, whatever stands around them. -/
theorem lowerFrom_of_forall {text : List Char} (h : ∀ c ∈ text, c.toNat < 0x80)
    (before : List Char) : lowerFrom before text = text.map Char.toLower := by
  induction text generalizing before with
  | nil => rfl
  | cons c rest ih =>
    obtain ⟨hc, hrest⟩ := List.forall_mem_cons.mp h
    have hsigma : c ≠ capitalSigma := by
      rintro rfl
      exact absurd hc (by decide)
    rw [lowerFrom, lowerBetween, if_neg hsigma, lowerChar, if_pos hc, ih hrest]
    rfl

end SchemaPages.Text

namespace SchemaPages.Json

open Yaml (Scalar Tag)

namespace Exponent

/-- An exponent with a small letter. -/
def lowered (exponent : Exponent) : Exponent :=
  { exponent with letter := 'e', letter_eq := lower_letter }

/-- An exponent is read up to the end of the text. -/
theorem readExponent_chars (exponent : Exponent) :
    Number.readExponent exponent.chars = some exponent.value := by
  obtain ⟨letter, sign, digits, hletter, hsign, hne, hdigits⟩ := exponent
  have hread : Number.leadingDigits digits = (digits.map fun c => c.toNat - '0'.toNat, []) := by
    have h : Number.leadingDigits (digits ++ []) = _ :=
      Number.leadingDigits_append hdigits fun _ hc => nomatch hc
    rwa [List.append_nil] at h
  obtain ⟨d, tail, rfl⟩ := List.exists_cons_of_ne_nil hne
  have hd : d.isDigit := hdigits d List.mem_cons_self
  rcases sign with _ | c
  · simp [chars, value, Number.readExponent, hletter, hread,
      Numeral.ne_of_isDigit hd (d := '+') rfl, Numeral.ne_of_isDigit hd (d := '-') rfl]
  · rcases hsign c rfl with rfl | rfl <;>
      simp [chars, value, Number.readExponent, hletter, hread]

end Exponent

namespace Numeral

/-! ### Integers -/

variable (n : Numeral)

theorem splitSign_chars : Scalar.splitSign n.chars = (n.negative, n.unsigned) := by
  obtain ⟨d, tail, hcons, hd, -⟩ := n.exists_whole
  rw [chars, signChars, unsigned, hcons]
  cases n.negative with
  | false =>
    rw [Yaml.Scalar.splitSign.eq_def]
    split
    · next h => exact absurd (List.cons.inj h).1 (ne_of_isDigit hd rfl)
    · next h => exact absurd (List.cons.inj h).1 (ne_of_isDigit hd rfl)
    · rfl
  | true => rfl

theorem filter_chars : n.chars.filter (· ≠ '_') = n.chars :=
  List.filter_eq_self.mpr fun c hc => by
    simpa using Yaml.Plain.ne_of_isLexemeChar (d := '_') (n.isLexemeChar c hc) rfl

theorem contains_unsigned : n.unsigned.contains ':' = false := by
  rw [Bool.eq_false_iff, ne_eq, List.contains_iff_mem]
  exact fun hmem => n.notMem_of_isLexemeChar rfl (n.mem_chars_of_mem_unsigned hmem)

/-- Digits without a fraction are read as an integer. -/
theorem readInt_whole (hinteger : n.isInteger) :
    Number.readInt 10 (String.ofList n.whole) = some (n.digits : Int) := by
  obtain ⟨d, tail, hcons, hd, -⟩ := n.exists_whole
  have hpadding : ∀ c ∈ n.whole, Number.isPadding c = false :=
    fun c hc => Number.isPadding_of_isDigit (n.isDigit_whole c hc)
  have hfraction : n.fraction = [] := by
    rw [isInteger, Bool.and_eq_true, List.isEmpty_iff] at hinteger
    exact hinteger.1
  have hread : Number.readNat 10 n.whole = some n.digits := by
    rw [Number.readNat, Number.dropBasePrefix_ten, digits, hfraction, List.append_nil,
      Number.ofDigits_map]
    split
    · next h => exact absurd h n.whole_ne_nil
    · next h =>
      rw [hcons] at h
      exact absurd (List.cons.inj h).1 (ne_of_isDigit hd rfl)
    · exact Number.readDigits_of_isDigit n.isDigit_whole 0
  rw [Number.readInt, String.toList_ofList, Number.dropPadding_of_forall hpadding]
  split
  · next h =>
    rw [hcons] at h
    exact absurd (List.cons.inj h).1 (ne_of_isDigit hd rfl)
  · next h =>
    rw [hcons] at h
    exact absurd (List.cons.inj h).1 (ne_of_isDigit hd rfl)
  · rw [hread]
    rfl

/-- All digits in front of a point are counted. -/
theorem decimalCount_whole : Scalar.decimalCount (String.ofList n.whole) = n.whole.length := by
  have hpadding : ∀ c ∈ n.whole, Number.isPadding c = false :=
    fun c hc => Number.isPadding_of_isDigit (n.isDigit_whole c hc)
  have hsign : Scalar.splitSign n.whole = (false, n.whole) := by
    obtain ⟨d, tail, hcons, hd, -⟩ := n.exists_whole
    rw [hcons, Yaml.Scalar.splitSign.eq_def]
    split
    · next h => exact absurd (List.cons.inj h).1 (ne_of_isDigit hd rfl)
    · next h => exact absurd (List.cons.inj h).1 (ne_of_isDigit hd rfl)
    · rfl
  have hdigits : Number.leadingDigits (n.whole ++ []) = _ :=
    Number.leadingDigits_append n.isDigit_whole fun _ hc => nomatch hc
  rw [List.append_nil] at hdigits
  rw [Scalar.decimalCount, String.toList_ofList, Number.dropPadding_of_forall hpadding, hsign,
    hdigits, List.length_map]

theorem unsignedInteger_unsigned (hinteger : n.isInteger)
    (hshort : n.whole.length ≤ Number.digitLimit) :
    Scalar.unsignedInteger n.unsigned = .ok (n.digits : Int) := by
  have hunsigned : n.unsigned = n.whole := by
    rw [unsigned_eq, n.suffix_eq_nil_iff.mpr hinteger, List.append_nil]
  have hcolon := n.contains_unsigned
  have hread := n.readInt_whole hinteger
  rw [hunsigned] at hcolon ⊢
  rcases n.whole_eq with hzero | ⟨hne, hhead⟩
  · rw [hzero] at hread ⊢
    have hvalue : Number.readInt 10 (String.ofList ['0']) = some 0 := by decide
    rw [← Option.some.inj (hvalue.symm.trans hread)]
    rfl
  · rw [Yaml.Scalar.unsignedInteger.eq_def]
    split
    · next h => exact absurd h hne
    · next h => exact absurd (congrArg List.head? h) hhead
    · next h => exact absurd (congrArg List.head? h) hhead
    · next h => exact absurd (congrArg List.head? h) hhead
    · next h => exact absurd (congrArg List.head? h) hhead
    · have hcount : ¬ (10 = 10 ∧
          Number.digitLimit < Scalar.decimalCount (String.ofList n.whole)) := by
        rw [decimalCount_whole]
        exact fun h => absurd h.2 (Nat.not_lt.mpr hshort)
      rw [hcolon, if_neg Bool.false_ne_true, Scalar.integerIn, if_neg hcount, hread]

/-- A number that is written as an integer is read as this integer. -/
theorem readInteger_chars (hinteger : n.isInteger) (hshort : n.whole.length ≤ Number.digitLimit) :
    Scalar.readInteger (String.ofList n.chars) = .ok n.integer := by
  rw [Scalar.readInteger, String.toList_ofList, filter_chars, splitSign_chars]
  dsimp only
  rw [unsignedInteger_unsigned n hinteger hshort]
  rfl

/-! ### Floats -/

/-- A number with a small letter in front of its exponent. -/
def lowered (n : Numeral) : Numeral :=
  { n with exponent := n.exponent.map Exponent.lowered }

theorem map_toLower_of_isDigit {text : List Char} (h : ∀ c ∈ text, c.isDigit) :
    text.map Char.toLower = text := by
  have hdigit : ∀ c ∈ text, c.toLower = id c := fun c hc => Number.toLower_of_isDigit (h c hc)
  rw [List.map_congr_left hdigit, List.map_id]

theorem map_toLower_chars : n.chars.map Char.toLower = n.lowered.chars := by
  have hsign : (signChars n.negative).map Char.toLower = signChars n.negative := by
    cases n.negative <;> rfl
  have hfraction : n.fractionChars.map Char.toLower = n.fractionChars := by
    rw [fractionChars]
    split
    · rfl
    · rw [List.map_cons, map_toLower_of_isDigit n.isDigit_fraction]
      rfl
  have hexponent : n.exponentChars.map Char.toLower = n.lowered.exponentChars := by
    rw [exponentChars, exponentChars, lowered]
    cases n.exponent with
    | none => rfl
    | some exponent =>
      have hletter : exponent.letter.toLower = 'e' := by
        rcases exponent.letter_eq with h | h <;> rw [h] <;> rfl
      have hmark : exponent.sign.toList.map Char.toLower = exponent.sign.toList := by
        rcases hsign : exponent.sign with _ | c
        · rfl
        · rcases exponent.sign_eq c hsign with rfl | rfl <;> rfl
      change (exponent.letter :: (exponent.sign.toList ++ exponent.digits)).map Char.toLower =
        'e' :: (exponent.sign.toList ++ exponent.digits)
      rw [List.map_cons, List.map_append, hletter, hmark,
        map_toLower_of_isDigit exponent.isDigit_digits]
  rw [chars, unsigned, List.map_append, List.map_append, List.map_append, hsign, hfraction,
    hexponent, map_toLower_of_isDigit n.isDigit_whole]
  rfl

theorem lower_chars : Text.lower (String.ofList n.chars) = String.ofList n.lowered.chars := by
  have hsmall : ∀ c ∈ n.chars, c.toNat < 0x80 :=
    fun c hc => (Yaml.Plain.toNat_of_isLexemeChar (n.isLexemeChar c hc)).2
  rw [Text.lower, String.toList_ofList, Text.lowerFrom_of_forall hsmall, map_toLower_chars]

/-- The value of a number does not depend on the letter in front of its exponent. -/
theorem float_lowered : n.lowered.float = n.float := by
  have hplace : n.lowered.place = n.place := by
    rw [place, place, lowered, Option.map_map]
    rfl
  rw [float, float, hplace]
  rfl

theorem readExponent_exponentChars :
    Number.readExponent n.exponentChars = some ((n.exponent.map Exponent.value).getD 0) := by
  rw [exponentChars]
  cases n.exponent with
  | none => rfl
  | some exponent => exact exponent.readExponent_chars

/-- The digits of a number are read in front of the point and behind it. -/
theorem readDecimal_unsigned :
    Number.readDecimal n.unsigned = some (Number.nearestFloat n.digits n.place) := by
  have hmark : ∀ c, c = '.' ∨ c = 'e' ∨ c = 'E' → Number.decimalDigit? c = none := by
    rintro _ (rfl | rfl | rfl) <;> decide
  have hwhole : Number.leadingDigits n.unsigned =
      (n.whole.map fun c => c.toNat - '0'.toNat, n.suffix) :=
    Number.leadingDigits_append n.isDigit_whole fun c hc => hmark c (n.head_suffix c hc)
  have hsome : (n.whole.map fun c => c.toNat - '0'.toNat) ≠ [] :=
    mt List.map_eq_nil_iff.mp n.whole_ne_nil
  have hexponent := n.readExponent_exponentChars
  rw [digits, place]
  by_cases hfraction : n.fraction = []
  · have hsuffix : n.suffix = n.exponentChars := by
      rw [suffix, fractionChars, if_pos hfraction, List.nil_append]
    have hpoint : n.exponentChars.head? ≠ some '.' :=
      fun h => n.point_notMem_exponentChars (List.mem_of_head? h)
    rw [hsuffix] at hwhole
    rw [Number.readDecimal_of_head?_ne hwhole hsome hpoint, hexponent, hfraction, List.append_nil,
      List.length_nil, Int.natCast_zero, Int.sub_zero]
    rfl
  · have hsuffix : n.suffix = '.' :: (n.fraction ++ n.exponentChars) := by
      rw [suffix, fractionChars, if_neg hfraction, List.cons_append]
    have hread : Number.leadingDigits (n.fraction ++ n.exponentChars) =
        (n.fraction.map fun c => c.toNat - '0'.toNat, n.exponentChars) :=
      Number.leadingDigits_append n.isDigit_fraction fun c hc =>
        hmark c (.inr (n.head_exponentChars c hc))
    rw [hsuffix] at hwhole
    rw [Number.readDecimal_point hwhole hsome hread, hexponent, List.map_append, List.length_map]
    rfl

theorem readFloat_unsigned : Number.readFloat (String.ofList n.unsigned) =
    some (Number.nearestFloat n.digits n.place) := by
  obtain ⟨d, tail, hcons, hd, -⟩ := n.exists_whole
  have hhead : n.unsigned = d :: (tail ++ n.suffix) := by
    rw [unsigned_eq, hcons, List.cons_append]
  have hpadding : ∀ c ∈ n.unsigned, Number.isPadding c = false := fun c hc =>
    Yaml.Plain.isPadding_of_isLexemeChar (n.isLexemeChar c (n.mem_chars_of_mem_unsigned hc))
  rw [Number.readFloat, String.toList_ofList, Number.dropPadding_of_forall hpadding]
  split
  · next h => exact absurd (List.cons.inj (hhead.symm.trans h)).1 (ne_of_isDigit hd rfl)
  · next h => exact absurd (List.cons.inj (hhead.symm.trans h)).1 (ne_of_isDigit hd rfl)
  · rw [← n.readDecimal_unsigned, hhead, Number.readUnsignedFloat_of_isDigit hd]

theorem unsignedFloat_unsigned :
    Scalar.unsignedFloat n.unsigned = .ok (Number.nearestFloat n.digits n.place) := by
  obtain ⟨d, tail, hcons, hd, -⟩ := n.exists_whole
  have hword : ∀ word : String, word.toList.head? = some '.' → String.ofList n.unsigned ≠ word := by
    rintro _ hpoint rfl
    rw [String.toList_ofList, unsigned_eq, hcons] at hpoint
    exact ne_of_isDigit hd rfl (Option.some.inj hpoint)
  rw [Scalar.unsignedFloat, if_neg (hword _ rfl), if_neg (hword _ rfl), n.contains_unsigned,
    if_neg Bool.false_ne_true, Scalar.floatIn, readFloat_unsigned]

/-- A number that is read as a float is read as the one next to it. -/
theorem readFloat_chars : Scalar.readFloat (String.ofList n.chars) = .ok n.float := by
  obtain ⟨c, tail, hcons, -⟩ := n.lowered.exists_head
  rw [Scalar.readFloat, lower_chars, String.toList_ofList, filter_chars]
  split
  · next hnil => exact absurd (hcons.symm.trans hnil) (List.cons_ne_nil c tail)
  · rw [splitSign_chars]
    dsimp only
    rw [unsignedFloat_unsigned, ← float_lowered]
    rfl

end Numeral

/-! ### Plain values -/

namespace Plain

/-- Whether a word or a number means the same in both notations. -/
def isShared : Plain → Bool
  | .word (_, .float _) .. => false
  | .word .. => true
  | .number n => n.isShared

/-- The scalar that a word or a number is in YAML. -/
def scalar : Plain → Scalar
  | .word (_, .null) _ => .null
  | .word (_, .bool value) _ => .bool value
  | .word (text, _) _ => .text text
  | .number n =>
    if n.isInteger then .integer n.integer
    else if n.isShared then .float n.float
    else .text (String.ofList n.chars)

theorem ofText_of_tag {word : String} (tag : Tag) {value : Scalar} (htag : Tag.ofPlain word = tag)
    (hempty : Yaml.Evaluation.emptyPart? tag = none) (hvalue : Scalar.ofText tag word = .ok value) :
    Yaml.Evaluation.emptyPart? (Tag.ofPlain word) = none ∧
      Scalar.ofText (Tag.ofPlain word) word = .ok value := by
  rw [htag]
  exact ⟨hempty, hvalue⟩

/-- **Plain values.** A word or a number is a scalar of YAML. -/
theorem ofText_eq {value : Plain} (hshort : value.Short) :
    Yaml.Evaluation.emptyPart? (Tag.ofPlain (String.ofList value.chars)) = none ∧
      Scalar.ofText (Tag.ofPlain (String.ofList value.chars)) (String.ofList value.chars) =
        .ok value.scalar := by
  cases value with
  | word entry h =>
    have hentry : entry = ("null", .null) ∨ entry = ("true", .bool true) ∨
        entry = ("false", .bool false) ∨ entry = ("NaN", .float (0.0 / 0.0)) ∨
        entry = ("Infinity", .float (1.0 / 0.0)) ∨ entry = ("-Infinity", .float (-1.0 / 0.0)) := by
      simpa [wordValues] using h
    rw [chars, String.ofList_toList]
    rcases hentry with rfl | rfl | rfl | rfl | rfl | rfl
    · exact ofText_of_tag .null (by decide) rfl rfl
    · have hread : Scalar.readBool "true" = .ok true := by decide
      exact ofText_of_tag .bool (by decide) rfl (congrArg (Scalar.bool <$> ·) hread)
    · have hread : Scalar.readBool "false" = .ok false := by decide
      exact ofText_of_tag .bool (by decide) rfl (congrArg (Scalar.bool <$> ·) hread)
    · exact ofText_of_tag .text (by decide) rfl rfl
    · exact ofText_of_tag .text (by decide) rfl rfl
    · exact ofText_of_tag .text (by decide) rfl rfl
  | number n =>
    change _ ∧ _ = Except.ok (if n.isInteger then Scalar.integer n.integer
      else if n.isShared then .float n.float else .text (String.ofList n.chars))
    rw [chars, n.ofPlain_eq]
    by_cases hinteger : n.isInteger
    · rw [if_pos hinteger, if_pos hinteger]
      exact ⟨rfl, congrArg (Scalar.integer <$> ·) (n.readInteger_chars hinteger (hshort hinteger))⟩
    · rw [if_neg hinteger, if_neg hinteger]
      by_cases hshared : n.isShared
      · rw [if_pos hshared, if_pos hshared]
        exact ⟨rfl, congrArg (Scalar.float <$> ·) n.readFloat_chars⟩
      · rw [if_neg hshared, if_neg hshared]
        exact ⟨rfl, rfl⟩

end Plain

end SchemaPages.Json
