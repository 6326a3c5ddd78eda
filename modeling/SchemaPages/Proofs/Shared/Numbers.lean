import SchemaPages.Proofs.Shared.Plain
import SchemaPages.Yaml.Tag

/-!
# Numbers that are known by their notation

A plain scalar is told to be a number by the way it is written. The integers of JSON are known as
integers. A float needs a point, and a sign in front of its exponent (`Numeral.isShared`), so a
number such as `1e5` or `1.5e3` is taken for a text (`Numeral.ofPlain_eq`). No number is taken for a
timestamp, a truth value or the missing value.
-/

namespace SchemaPages.Yaml

/-! ### How timestamps start -/

theorem exists_of_takeDigits {least most value : Nat} {text rest : List Char}
    (h : takeDigits least most text = some (value, rest)) :
    ∃ digits, text = digits ++ rest ∧ (∀ c ∈ digits, c.isDigit) ∧ least ≤ digits.length := by
  rw [takeDigits] at h
  obtain ⟨hlength, heq⟩ := Option.ite_none_right_eq_some.mp h
  obtain ⟨-, rfl⟩ := Prod.mk.inj (Option.some.inj heq)
  have hprefix : (text.take most).takeWhile Char.isDigit <+: text :=
    (List.takeWhile_prefix _).trans (List.take_prefix _ _)
  exact ⟨_, (List.prefix_iff_eq_append.mp hprefix).symm, fun c hc => List.mem_takeWhile_imp hc,
    hlength⟩

/-- A timestamp starts with four digits and a dash. -/
theorem Timestamp.exists_year {text : List Char} {t : Timestamp}
    (h : Timestamp.read? text = some t) :
    ∃ year rest, text = year ++ '-' :: rest ∧ (∀ c ∈ year, c.isDigit) ∧ 4 ≤ year.length := by
  simp only [Timestamp.read?, Option.bind_eq_bind, Option.bind_eq_some_iff] at h
  obtain ⟨⟨number, afterYear⟩, hyear, afterDash, hpass, -⟩ := h
  obtain ⟨year, rfl, hdigits, hlength⟩ := exists_of_takeDigits hyear
  cases afterYear with
  | nil => cases hpass
  | cons d rest =>
    obtain ⟨rfl, -⟩ := Option.ite_none_right_eq_some.mp hpass
    exact ⟨year, rest, rfl, hdigits, hlength⟩

end SchemaPages.Yaml

namespace SchemaPages.Json

open Yaml (Tag)

namespace Numeral

/-! ### The notation of numbers -/

/-- Whether a number is written as an integer, or as a float with a point and with a sign in front
of its exponent. -/
def isShared (n : Numeral) : Bool :=
  n.isInteger || (!n.fraction.isEmpty && n.exponent.all (·.sign.isSome))

/-- What follows the digits in front of the point. -/
def suffix (n : Numeral) : List Char :=
  n.fractionChars ++ n.exponentChars

variable (n : Numeral)

theorem head_exponentChars : ∀ c ∈ n.exponentChars.head?, c = 'e' ∨ c = 'E' := by
  rw [exponentChars]
  cases n.exponent with
  | none =>
    intro c hc
    cases hc
  | some exponent =>
    rintro _ ⟨⟩
    exact exponent.letter_eq

theorem head_suffix : ∀ c ∈ n.suffix.head?, c = '.' ∨ c = 'e' ∨ c = 'E' := by
  rw [suffix, fractionChars]
  split
  · exact fun c hc => .inr (n.head_exponentChars c hc)
  · rintro _ ⟨⟩
    exact .inl rfl

theorem suffix_eq_nil_iff : n.suffix = [] ↔ n.isInteger = true := by
  rw [suffix, List.append_eq_nil_iff, isInteger, Bool.and_eq_true, List.isEmpty_iff,
    Option.isNone_iff_eq_none, fractionChars, exponentChars]
  refine and_congr ?_ ?_
  · split
    · next h => exact iff_of_true rfl h
    · next h => exact iff_of_false (List.cons_ne_nil _ _) h
  · cases n.exponent with
    | none => exact iff_of_true rfl rfl
    | some exponent => exact iff_of_false (List.cons_ne_nil _ _) (Option.some_ne_none _)

theorem exists_whole : ∃ d tail, n.whole = d :: tail ∧ d.isDigit ∧ ∀ c ∈ tail, c.isDigit := by
  obtain ⟨d, tail, hcons⟩ := List.exists_cons_of_ne_nil n.whole_ne_nil
  obtain ⟨hd, htail⟩ := List.forall_mem_cons.mp (hcons ▸ n.isDigit_whole)
  exact ⟨d, tail, hcons, hd, htail⟩

theorem notMem_of_isLexemeChar {mark : Char} (h : Yaml.Plain.isLexemeChar mark = false) :
    mark ∉ n.chars :=
  fun hmem => absurd (h.symm.trans (n.isLexemeChar mark hmem)) Bool.false_ne_true

theorem ne_of_isDigit {c d : Char} (hc : c.isDigit) (hd : d.isDigit = false) : c ≠ d := by
  rintro rfl
  exact absurd (hd.symm.trans hc) Bool.false_ne_true

theorem dropSign_chars : Yaml.dropSign n.chars = n.unsigned := by
  obtain ⟨d, tail, hcons, hd, -⟩ := n.exists_whole
  rw [chars, signChars, unsigned, hcons]
  cases n.negative with
  | false => simp [Yaml.dropSign, ne_of_isDigit hd (d := '+') rfl, ne_of_isDigit hd (d := '-') rfl]
  | true => rfl

theorem unsigned_eq : n.unsigned = n.whole ++ n.suffix :=
  rfl

theorem mem_chars_of_mem_unsigned {c : Char} (h : c ∈ n.unsigned) : c ∈ n.chars :=
  List.mem_append_right _ h

/-- What does not go on behind the digits is all of a number only if it is an integer. -/
theorem all_suffix {p : Char → Bool} (hpoint : p '.' = false) (hlower : p 'e' = false)
    (hupper : p 'E' = false) : n.suffix.all p = n.isInteger := by
  rcases hsuffix : n.suffix with _ | ⟨c, more⟩
  · rw [n.suffix_eq_nil_iff.mp hsuffix]
    rfl
  · have hinteger : n.isInteger = false :=
      Bool.eq_false_iff.mpr fun h => List.cons_ne_nil c more (hsuffix ▸ n.suffix_eq_nil_iff.mpr h)
    have hc : p c = false := by
      rcases n.head_suffix c (hsuffix ▸ rfl) with rfl | rfl | rfl <;> assumption
    rw [hinteger, List.all_cons, hc, Bool.false_and]

theorem point_notMem_exponentChars : '.' ∉ n.exponentChars := by
  rw [exponentChars]
  cases n.exponent with
  | none => exact List.not_mem_nil
  | some exponent =>
    intro hmem
    rcases List.mem_cons.mp hmem with hletter | hmem
    · exact absurd (hletter ▸ exponent.letter_eq) (by decide)
    · rcases List.mem_append.mp hmem with hsign | hdigit
      · exact absurd (exponent.sign_eq _ (Option.mem_toList.mp hsign)) (by decide)
      · exact absurd (exponent.isDigit_digits _ hdigit) (by decide)

/-- An exponent is known by its sign. -/
theorem isExponent_exponentChars :
    Yaml.isExponent n.exponentChars = n.exponent.all (·.sign.isSome) := by
  rw [exponentChars]
  cases n.exponent with
  | none => rfl
  | some exponent =>
    obtain ⟨letter, sign, digits, hletter, hsign, hne, hdigits⟩ := exponent
    obtain ⟨d, tail, rfl⟩ := List.exists_cons_of_ne_nil hne
    have hd : d.isDigit := hdigits d List.mem_cons_self
    rcases sign with _ | c
    · simp [Exponent.chars, Yaml.isExponent, ne_of_isDigit hd (d := '+') rfl,
        ne_of_isDigit hd (d := '-') rfl]
    · have hall : Yaml.allOf Char.isDigit (d :: tail) := List.all_eq_true.mpr hdigits
      have hc : c = '+' ∨ c = '-' := hsign c rfl
      simp [Exponent.chars, Yaml.isExponent, hletter, hc, hall]

/-- Behind the digits of a fraction there is the exponent. -/
theorem isFraction_append : Yaml.isFraction (n.fraction ++ n.exponentChars) =
    n.exponent.all (·.sign.isSome) := by
  have hgap : ∀ c ∈ n.fraction, Yaml.isDigitOrGap c := fun c hc => by
    rw [Yaml.isDigitOrGap, n.isDigit_fraction c hc, Bool.true_or]
  have hstop : n.exponentChars.dropWhile Yaml.isDigitOrGap = n.exponentChars := by
    have hhead := n.head_exponentChars
    revert hhead
    rcases n.exponentChars with _ | ⟨c, more⟩
    · exact fun _ => rfl
    · intro hhead
      refine List.dropWhile_cons_of_neg ?_
      rcases hhead c rfl with rfl | rfl <;> decide
  rw [Yaml.isFraction, List.dropWhile_append_of_pos hgap, hstop, isExponent_exponentChars]

/-- A number is known as an integer exactly if it is written as one. -/
theorem isInteger_chars : Yaml.isInteger n.chars = n.isInteger := by
  rw [Yaml.isInteger, dropSign_chars, unsigned_eq]
  rcases n.whole_eq with hzero | ⟨-, hhead⟩
  · -- behind a zero there are octal digits or nothing
    rw [hzero, List.singleton_append]
    rcases hsuffix : n.suffix with _ | ⟨c, more⟩
    · exact (n.suffix_eq_nil_iff.mp hsuffix).symm
    · rw [← n.all_suffix (p := fun c => ('0' ≤ c && c ≤ '7') || c = '_') rfl rfl rfl, hsuffix]
      rcases n.head_suffix c (hsuffix ▸ rfl) with rfl | rfl | rfl <;> rfl
  · obtain ⟨d, tail, hcons, hd, htail⟩ := n.exists_whole
    have hzero : d ≠ '0' := by
      rintro rfl
      exact hhead (hcons ▸ rfl)
    have hcolon : ':' ∉ d :: (tail ++ n.suffix) := by
      rw [← List.cons_append, ← hcons]
      exact fun hmem => n.notMem_of_isLexemeChar rfl (n.mem_chars_of_mem_unsigned hmem)
    have hgap : ∀ c ∈ tail, Yaml.isDigitOrGap c := fun c hc => by
      rw [Yaml.isDigitOrGap, htail c hc, Bool.true_or]
    have hdecimal : Yaml.startsWithDigit Yaml.isNonZeroDigit (d :: (tail ++ n.suffix)) =
        n.isInteger := by
      rw [Yaml.startsWithDigit, List.all_append, List.all_eq_true.mpr hgap, Bool.true_and,
        n.all_suffix rfl rfl rfl, Yaml.isNonZeroDigit, hd, decide_eq_true hzero, Bool.true_and,
        Bool.true_and]
    rw [hcons, List.cons_append, Yaml.isUnsignedInteger.eq_def]
    split
    · next h => exact absurd (List.cons.inj h).1 hzero
    · next h => exact absurd (List.cons.inj h).1 hzero
    · next h => exact absurd (List.cons.inj h).1 hzero
    · next h => exact absurd (List.cons.inj h).1 hzero
    · rw [Text.splitAtChar_of_not_mem hcolon]
      simpa using hdecimal

/-- A number is known as a float exactly if it has a point and a sign in front of its exponent. -/
theorem isFiniteFloat_chars :
    Yaml.isFiniteFloat n.chars = (!n.fraction.isEmpty && n.exponent.all (·.sign.isSome)) := by
  rw [Yaml.isFiniteFloat, dropSign_chars, unsigned]
  have hwhole : '.' ∉ n.whole := fun hmem => absurd (n.isDigit_whole _ hmem) (by decide)
  by_cases hfraction : n.fraction = []
  · have hpoint : '.' ∉ n.whole ++ (n.fractionChars ++ n.exponentChars) := by
      rw [fractionChars, if_pos hfraction, List.nil_append]
      exact fun hmem => (List.mem_append.mp hmem).elim hwhole n.point_notMem_exponentChars
    rw [Text.cutFirst_eq_none hpoint, hfraction]
    rfl
  · obtain ⟨d, tail, hcons, hd, htail⟩ := n.exists_whole
    have hcolon : ':' ∉ n.whole := fun hmem => absurd (n.isDigit_whole _ hmem) (by decide)
    have hdigits : Yaml.startsWithDigit Char.isDigit n.whole := by
      rw [hcons, Yaml.startsWithDigit, hd, Bool.true_and]
      exact List.all_eq_true.mpr fun c hc => by rw [Yaml.isDigitOrGap, htail c hc, Bool.true_or]
    rw [fractionChars, if_neg hfraction, List.cons_append, Text.cutFirst_append_cons hwhole]
    have hne : n.fraction.isEmpty = false := by simpa using hfraction
    rw [hne, Bool.not_false, Bool.true_and, ← n.isFraction_append]
    simp only [hcons] at hcolon hdigits ⊢
    rw [Text.splitAtChar_of_not_mem hcolon]
    simp [hdigits]

/-- A number is no timestamp. -/
theorem isTimestamp_chars : Yaml.isTimestamp n.chars = false := by
  have hread : Yaml.Timestamp.read? n.chars = none := by
    by_contra hsome
    obtain ⟨t, ht⟩ := Option.ne_none_iff_exists'.mp hsome
    obtain ⟨year, rest, hchars, hyear, hlength⟩ := Yaml.Timestamp.exists_year ht
    -- the digits at the start of the number are those in front of the dash
    have hspan : spanDigits n.chars = (year, '-' :: rest) := by
      rw [hchars]
      exact spanDigits_append hyear fun c hc => by cases hc; rfl
    rw [chars, signChars, unsigned_eq] at hspan
    cases hnegative : n.negative with
    | true =>
      rw [hnegative] at hspan
      have hnil : [] = year := congrArg Prod.fst hspan
      rw [← hnil] at hlength
      exact absurd hlength (by decide)
    | false =>
      have hends : ∀ c ∈ n.suffix.head?, c.isDigit = false := fun c hc => by
        rcases n.head_suffix c hc with rfl | rfl | rfl <;> rfl
      rw [hnegative, if_neg Bool.false_ne_true, List.nil_append,
        spanDigits_append n.isDigit_whole hends] at hspan
      have hdash : n.suffix = '-' :: rest := congrArg Prod.snd hspan
      exact absurd (n.head_suffix '-' (hdash ▸ rfl)) (by decide)
  rw [Yaml.isTimestamp, hread]

theorem exists_head : ∃ c tail, n.chars = c :: tail ∧ (c.isDigit || c = '-') := by
  obtain ⟨d, tail, hcons, hd, -⟩ := n.exists_whole
  rw [chars, signChars, unsigned, hcons]
  cases n.negative with
  | false => exact ⟨d, _, rfl, by rw [hd, Bool.true_or]⟩
  | true => exact ⟨'-', _, rfl, rfl⟩

/-- A number is not one of the words that do not start like one. -/
theorem ofList_chars_ne {word : String}
    (h : word.toList.head?.all fun c => !(c.isDigit || c = '-')) :
    String.ofList n.chars ≠ word := by
  rintro rfl
  obtain ⟨c, tail, hcons, hc⟩ := n.exists_head
  rw [String.toList_ofList, hcons, List.head?_cons, Option.all_some, hc] at h
  cases h

theorem dropFinalLineFeed_chars : Yaml.dropFinalLineFeed n.chars = n.chars :=
  if_neg fun h => n.notMem_of_isLexemeChar rfl (List.mem_of_getLast? h.2)

/-- Which numbers are known as numbers. -/
theorem ofPlain_eq : Tag.ofPlain (String.ofList n.chars) =
    if n.isInteger then .integer else if n.isShared then .float else .text := by
  have hword : ∀ word : String, (word.toList.head?.all fun c => !(c.isDigit || c = '-')) →
      (String.ofList n.chars = word) = False :=
    fun word h => eq_false (n.ofList_chars_ne h)
  have hnull : Yaml.nullWords.contains (String.ofList n.chars) = false := by
    simp [Yaml.nullWords, hword]
  have hbool : (Yaml.boolWords.lookup (String.ofList n.chars)).isSome = false := by
    have hwords : ∀ entry ∈ Yaml.boolWords,
        entry.1.toList.head?.all fun c => !(c.isDigit || c = '-') := by decide
    rw [List.lookup_eq_none_iff.mpr fun entry hentry =>
      bne_iff_ne.mpr (n.ofList_chars_ne (hwords entry hentry))]
    rfl
  have hinfinity : Yaml.isInfinity n.chars = false := by
    obtain ⟨d, tail, hcons, hd, -⟩ := n.exists_whole
    rw [Yaml.isInfinity, dropSign_chars, unsigned, hcons]
    simp [ne_of_isDigit hd (d := '.') rfl]
  have hnan : Yaml.isNotANumber n.chars = false := by
    obtain ⟨c, tail, hcons, hc⟩ := n.exists_head
    have hpoint : c ≠ '.' := by
      rintro rfl
      cases hc
    rw [Yaml.isNotANumber, hcons]
    simp [hpoint]
  simp only [Tag.ofPlain, String.toList_ofList, dropFinalLineFeed_chars, hnull, hbool,
    isInteger_chars, isFiniteFloat_chars, hinfinity, hnan, isTimestamp_chars, Bool.or_false]
  cases hinteger : n.isInteger <;> simp [hword, isShared, hinteger]

end Numeral

end SchemaPages.Json
