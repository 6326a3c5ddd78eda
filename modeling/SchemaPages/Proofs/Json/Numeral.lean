import Mathlib.Data.List.TakeWhile
import SchemaPages.Json.Reader

/-!
# How numbers are written in JSON texts

A number is written as a sign, digits that do not start with a superfluous zero, a fraction and an
exponent, of which all but the digits may be left out (`Numeral`). This is exactly what is read: a
number that is read stands at the start of the text as a numeral with its value
(`exists_of_readNumber`), and a numeral is read with its value if what follows does not go on with
it (`readNumber_numeral`).
-/

namespace SchemaPages.Json

/-- An exponent: its letter, a sign or none, and digits. -/
structure Exponent where
  letter : Char
  sign : Option Char
  digits : List Char
  letter_eq : letter = 'e' ∨ letter = 'E'
  sign_eq : ∀ c ∈ sign, c = '+' ∨ c = '-'
  digits_ne_nil : digits ≠ []
  isDigit_digits : ∀ c ∈ digits, c.isDigit

namespace Exponent

theorem lower_letter : 'e' = 'e' ∨ 'e' = 'E' :=
  .inl rfl

/-- The text of an exponent. -/
def chars (exponent : Exponent) : List Char :=
  exponent.letter :: (exponent.sign.toList ++ exponent.digits)

/-- The value of an exponent. -/
def value (exponent : Exponent) : Int :=
  let n := Number.ofDigits (exponent.digits.map fun c => c.toNat - '0'.toNat)
  if exponent.sign = some '-' then -(n : Int) else n

end Exponent

/-- The text of a sign. -/
def signChars (negative : Bool) : List Char :=
  if negative then ['-'] else []

/-- A number as it is written: its digits in front of the point and behind it, where no digits are
left out together with the point, and the exponent. -/
structure Numeral where
  negative : Bool
  whole : List Char
  fraction : List Char
  exponent : Option Exponent
  whole_eq : whole = ['0'] ∨ whole ≠ [] ∧ whole.head? ≠ some '0'
  isDigit_whole : ∀ c ∈ whole, c.isDigit
  isDigit_fraction : ∀ c ∈ fraction, c.isDigit

namespace Numeral

/-- The point and the fraction. -/
def fractionChars (n : Numeral) : List Char :=
  if n.fraction = [] then [] else '.' :: n.fraction

/-- The text of the exponent. -/
def exponentChars (n : Numeral) : List Char :=
  (n.exponent.map Exponent.chars).getD []

/-- The text behind the sign. -/
def unsigned (n : Numeral) : List Char :=
  n.whole ++ (n.fractionChars ++ n.exponentChars)

/-- The text of a numeral. -/
def chars (n : Numeral) : List Char :=
  signChars n.negative ++ n.unsigned

/-- Whether a numeral is that of an integer. -/
def isInteger (n : Numeral) : Bool :=
  n.fraction.isEmpty && n.exponent.isNone

/-- The number that all digits write. -/
def digits (n : Numeral) : Nat :=
  Number.ofDigits ((n.whole ++ n.fraction).map fun c => c.toNat - '0'.toNat)

/-- The integer that the digits write with the sign. -/
def integer (n : Numeral) : Int :=
  if n.negative then -(n.digits : Int) else n.digits

/-- The power of ten that the number of the digits is multiplied with. -/
def place (n : Numeral) : Int :=
  (n.exponent.map Exponent.value).getD 0 - n.fraction.length

/-- The float next to the number. -/
def float (n : Numeral) : Float :=
  if n.negative then -Number.nearestFloat n.digits n.place
  else Number.nearestFloat n.digits n.place

/-- The value of a numeral. -/
def value (n : Numeral) : Json :=
  if n.isInteger then .integer n.integer else .float n.float

theorem whole_ne_nil (n : Numeral) : n.whole ≠ [] := by
  rcases n.whole_eq with h | ⟨h, -⟩
  · rw [h]
    exact List.cons_ne_nil _ _
  · exact h

end Numeral

/-! ### Digits -/

variable {text rest digits whole fraction : List Char}

/-- What follows digits, if it does not go on with them. -/
theorem spanDigits_append (hdigits : ∀ c ∈ digits, c.isDigit)
    (hrest : ∀ c ∈ rest.head?, c.isDigit = false) :
    spanDigits (digits ++ rest) = (digits, rest) := by
  have hnone : rest.takeWhile Char.isDigit = [] ∧ rest.dropWhile Char.isDigit = rest := by
    cases rest with
    | nil => exact ⟨rfl, rfl⟩
    | cons c more =>
      have hc : ¬ c.isDigit := by rw [hrest c rfl]; exact Bool.false_ne_true
      exact ⟨List.takeWhile_cons_of_neg hc, List.dropWhile_cons_of_neg hc⟩
  rw [spanDigits, List.takeWhile_append_of_pos hdigits, List.dropWhile_append_of_pos hdigits,
    hnone.1, hnone.2, List.append_nil]

theorem eq_of_spanDigits (h : spanDigits text = (digits, rest)) :
    text = digits ++ rest ∧ ∀ c ∈ digits, c.isDigit := by
  obtain ⟨rfl, rfl⟩ := Prod.mk.inj h
  exact ⟨List.takeWhile_append_dropWhile.symm, fun _ hc => List.mem_takeWhile_imp hc⟩

theorem eq_of_readWhole (h : readWhole text = (whole, rest)) (hne : whole ≠ []) :
    text = whole ++ rest ∧ (whole = ['0'] ∨ whole ≠ [] ∧ whole.head? ≠ some '0') ∧
      ∀ c ∈ whole, c.isDigit := by
  rw [readWhole.eq_def] at h
  split at h
  · cases h
    exact ⟨rfl, .inl rfl, List.forall_mem_singleton.mpr rfl⟩
  · next hzero =>
    obtain ⟨htext, hdigits⟩ := eq_of_spanDigits h
    refine ⟨htext, .inr ⟨hne, fun hhead => ?_⟩, hdigits⟩
    obtain ⟨more, rfl⟩ := List.head?_eq_some_iff.mp hhead
    exact hzero _ htext

theorem readWhole_append (hwhole : whole = ['0'] ∨ whole ≠ [] ∧ whole.head? ≠ some '0')
    (hdigits : ∀ c ∈ whole, c.isDigit) (hrest : ∀ c ∈ rest.head?, c.isDigit = false) :
    readWhole (whole ++ rest) = (whole, rest) := by
  rcases hwhole with rfl | ⟨hne, hhead⟩
  · rfl
  · rw [readWhole.eq_def]
    split
    · next more heq =>
      refine absurd ?_ hhead
      obtain ⟨c, tail, rfl⟩ := List.exists_cons_of_ne_nil hne
      exact congrArg some (List.cons.inj heq).1
    · exact spanDigits_append hdigits hrest

theorem eq_of_readFraction (h : readFraction text = (fraction, rest)) :
    text = (if fraction = [] then [] else '.' :: fraction) ++ rest ∧
      ∀ c ∈ fraction, c.isDigit := by
  rw [readFraction.eq_def] at h
  split at h
  · split at h
    · cases h
      exact ⟨rfl, fun _ hnone => nomatch hnone⟩
    · next hne =>
      obtain ⟨rfl, hdigits⟩ := eq_of_spanDigits h
      have hfraction : fraction ≠ [] := by
        rintro rfl
        exact hne _ h
      rw [if_neg hfraction]
      exact ⟨rfl, hdigits⟩
  · cases h
    exact ⟨rfl, fun _ hnone => nomatch hnone⟩

theorem readFraction_append (hdigits : ∀ c ∈ fraction, c.isDigit)
    (hrest : ∀ c ∈ rest.head?, c.isDigit = false ∧ c ≠ '.') :
    readFraction ((if fraction = [] then [] else '.' :: fraction) ++ rest) = (fraction, rest) := by
  by_cases hnil : fraction = []
  · rw [if_pos hnil, hnil, List.nil_append]
    rw [readFraction.eq_def]
    split
    · exact absurd rfl (hrest '.' rfl).2
    · rfl
  · rw [if_neg hnil, List.cons_append, readFraction,
      spanDigits_append hdigits fun c hc => (hrest c hc).1]
    split
    · next heq => exact absurd (Prod.mk.inj heq).1 hnil
    · rfl

theorem exists_of_noExponent {found : Option Int} (h : (none, text) = (found, rest)) :
    ∃ exponent : Option Exponent, found = exponent.map Exponent.value ∧
      text = (exponent.map Exponent.chars).getD [] ++ rest := by
  cases h
  exact ⟨none, rfl, rfl⟩

/-- What is read behind the letter and the sign of an exponent. -/
theorem exists_of_exponentDigits {found : Option Int} {letter : Char} {more : List Char}
    (sign : Option Char) (hletter : letter = 'e' ∨ letter = 'E')
    (hsign : ∀ c ∈ sign, c = '+' ∨ c = '-') (htext : text = letter :: (sign.toList ++ more))
    (h : (match spanDigits more with
      | ([], _) => (none, text)
      | (digits, left) =>
        let n := Number.ofDigits (digits.map fun c => c.toNat - '0'.toNat)
        (some (if decide (sign = some '-') then -(n : Int) else n), left)) = (found, rest)) :
    ∃ exponent : Option Exponent, found = exponent.map Exponent.value ∧
      text = (exponent.map Exponent.chars).getD [] ++ rest := by
  split at h
  · exact exists_of_noExponent h
  · next digits left hne hspan =>
    cases h
    obtain ⟨rfl, hdigits⟩ := eq_of_spanDigits hspan
    have hdigits_ne : digits ≠ [] := by
      rintro rfl
      exact hne rfl
    refine ⟨some ⟨letter, sign, digits, hletter, hsign, hdigits_ne, hdigits⟩, ?_, ?_⟩
    · simp [Exponent.value]
    · rw [htext]
      simp [Exponent.chars]

theorem exists_of_readExponent {found : Option Int} (h : readExponent text = (found, rest)) :
    ∃ exponent : Option Exponent, found = exponent.map Exponent.value ∧
      text = (exponent.map Exponent.chars).getD [] ++ rest := by
  rw [readExponent.eq_def] at h
  split at h
  · next letter more =>
    split at h
    · next hletter =>
      have hletter : letter = 'e' ∨ letter = 'E' := by simpa using hletter
      rcases more with _ | ⟨c, tail⟩
      · exact exists_of_exponentDigits none hletter (by simp) rfl h
      · by_cases hminus : c = '-'
        · subst hminus
          exact exists_of_exponentDigits (some '-') hletter (by simp) rfl h
        · by_cases hplus : c = '+'
          · subst hplus
            exact exists_of_exponentDigits (some '+') hletter (by simp) rfl h
          · refine exists_of_exponentDigits none hletter (by simp) rfl ?_
            simp [hminus, hplus] at h ⊢
            exact h
    · exact exists_of_noExponent h
  · exact exists_of_noExponent h

theorem readExponent_chars (exponent : Exponent)
    (hrest : ∀ c ∈ rest.head?, c.isDigit = false) :
    readExponent (exponent.chars ++ rest) = (some exponent.value, rest) := by
  obtain ⟨letter, sign, digits, hletter, hsign, hne, hdigits⟩ := exponent
  have hspan : spanDigits (digits ++ rest) = (digits, rest) := spanDigits_append hdigits hrest
  rw [readExponent.eq_def]
  rcases sign with _ | c
  · -- A digit is no sign, so none is passed.
    obtain ⟨d, tail, rfl⟩ := List.exists_cons_of_ne_nil hne
    have hd : d.isDigit := hdigits d List.mem_cons_self
    have hminus : d ≠ '-' := by
      rintro rfl
      exact absurd hd (by decide)
    have hplus : d ≠ '+' := by
      rintro rfl
      exact absurd hd (by decide)
    rw [List.cons_append] at hspan
    simp [Exponent.chars, Exponent.value, hletter, hspan, hminus, hplus]
  · rcases hsign c rfl with rfl | rfl <;> simp [Exponent.chars, Exponent.value, hletter, hspan]

/-! ### Numbers -/

/-- Whether a text that follows a number does not go on with it. -/
def EndsNumber (rest : List Char) : Prop :=
  ∀ c ∈ rest.head?, c.isDigit = false ∧ c ≠ '.' ∧ c ≠ 'e' ∧ c ≠ 'E'

theorem readExponent_exponentChars (n : Numeral) (hrest : EndsNumber rest) :
    readExponent (n.exponentChars ++ rest) = (n.exponent.map Exponent.value, rest) := by
  rw [Numeral.exponentChars]
  cases n.exponent with
  | some exponent => exact readExponent_chars exponent fun c hc => (hrest c hc).1
  | none =>
    cases rest with
    | nil => rfl
    | cons c more =>
      obtain ⟨-, -, hlower, hupper⟩ := hrest c rfl
      simp [readExponent, hlower, hupper]

/-- An exponent does not go on with a fraction. -/
theorem head_exponentChars (n : Numeral) (hrest : EndsNumber rest) :
    ∀ c ∈ (n.exponentChars ++ rest).head?, c.isDigit = false ∧ c ≠ '.' := by
  rw [Numeral.exponentChars]
  cases n.exponent with
  | none => exact fun c hc => ⟨(hrest c hc).1, (hrest c hc).2.1⟩
  | some exponent =>
    intro c hc
    obtain rfl : exponent.letter = c := Option.some.inj hc
    rcases exponent.letter_eq with h | h <;> rw [h] <;> decide

/-- A fraction does not go on with the digits in front of it. -/
theorem head_fractionChars (n : Numeral) (hrest : EndsNumber rest) :
    ∀ c ∈ (n.fractionChars ++ (n.exponentChars ++ rest)).head?, c.isDigit = false := by
  rw [Numeral.fractionChars]
  split
  · exact fun c hc => (head_exponentChars n hrest c hc).1
  · intro c hc
    cases hc
    decide

/-- A number is read in parts, behind its sign. -/
theorem readNumber_of_readWhole {negative : Bool} {unsigned afterWhole afterFraction : List Char}
    {exponent : Option Int} (hsign : negative = false → unsigned.head? ≠ some '-')
    (hwhole : readWhole unsigned = (whole, afterWhole)) (hne : whole ≠ [])
    (hfraction : readFraction afterWhole = (fraction, afterFraction))
    (hexponent : readExponent afterFraction = (exponent, rest)) :
    readNumber (signChars negative ++ unsigned) =
      let digits := Number.ofDigits ((whole ++ fraction).map fun c => c.toNat - '0'.toNat)
      let x := Number.nearestFloat digits (exponent.getD 0 - fraction.length)
      .ok (if fraction.isEmpty && exponent.isNone then
          .integer (if negative then -(digits : Int) else digits)
        else .float (if negative then -x else x), rest) := by
  obtain ⟨d, tail, rfl⟩ := List.exists_cons_of_ne_nil hne
  rw [readNumber.eq_def]
  cases negative with
  | false =>
    rcases unsigned with _ | ⟨c, more⟩
    · cases hwhole
    · have hc : c ≠ '-' := fun heq => hsign rfl (congrArg some heq)
      simp [signChars, hc, hwhole, hfraction, hexponent]
      split <;> rfl
  | true =>
    simp [signChars, hwhole, hfraction, hexponent]
    split <;> rfl

/-- Where there are no digits there is no number. -/
theorem readNumber_of_nil {negative : Bool} {unsigned : List Char}
    (hsign : negative = false → unsigned.head? ≠ some '-')
    (hwhole : readWhole unsigned = ([], rest)) :
    readNumber (signChars negative ++ unsigned) =
      stopAt .expectedValue (signChars negative ++ unsigned) := by
  rw [readNumber.eq_def]
  cases negative with
  | false =>
    rcases unsigned with _ | ⟨c, more⟩
    · rfl
    · have hc : c ≠ '-' := fun heq => hsign rfl (congrArg some heq)
      simp [signChars, hc, hwhole]
  | true => simp [signChars, hwhole]

/-- A numeral is read with its value. -/
theorem readNumber_numeral (n : Numeral) (hrest : EndsNumber rest) :
    readNumber (n.chars ++ rest) = .ok (n.value, rest) := by
  have hwhole : readWhole (n.unsigned ++ rest) =
      (n.whole, n.fractionChars ++ (n.exponentChars ++ rest)) := by
    rw [Numeral.unsigned, List.append_assoc, List.append_assoc]
    exact readWhole_append n.whole_eq n.isDigit_whole (head_fractionChars n hrest)
  have hfraction : readFraction (n.fractionChars ++ (n.exponentChars ++ rest)) =
      (n.fraction, n.exponentChars ++ rest) :=
    readFraction_append n.isDigit_fraction (head_exponentChars n hrest)
  have hexponent := readExponent_exponentChars n hrest
  have hsign : (n.unsigned ++ rest).head? ≠ some '-' := by
    intro hhead
    obtain ⟨d, tail, hcons⟩ := List.exists_cons_of_ne_nil n.whole_ne_nil
    have hd : d.isDigit := n.isDigit_whole d (hcons ▸ List.mem_cons_self)
    rw [Numeral.unsigned, hcons] at hhead
    rw [Option.some.inj hhead] at hd
    exact absurd hd (by decide)
  rw [Numeral.chars, List.append_assoc,
    readNumber_of_readWhole (fun _ => hsign) hwhole n.whole_ne_nil hfraction hexponent,
    Numeral.value, Numeral.isInteger, Option.isNone_map]
  rfl

/-- A number that is read is written as a numeral. -/
theorem exists_of_readNumber {value : Json} (h : readNumber text = .ok (value, rest)) :
    ∃ n : Numeral, text = n.chars ++ rest ∧ value = n.value := by
  obtain ⟨negative, unsigned, rfl, hsign⟩ : ∃ negative unsigned,
      text = signChars negative ++ unsigned ∧
        (negative = false → unsigned.head? ≠ some '-') := by
    by_cases hhead : text.head? = some '-'
    · obtain ⟨more, rfl⟩ := List.head?_eq_some_iff.mp hhead
      exact ⟨true, more, rfl, fun h => nomatch h⟩
    · exact ⟨false, text, rfl, fun _ => hhead⟩
  rcases hwhole : readWhole unsigned with ⟨whole, afterWhole⟩
  rcases hfraction : readFraction afterWhole with ⟨fraction, afterFraction⟩
  rcases hexponent : readExponent afterFraction with ⟨found, left⟩
  by_cases hne : whole = []
  · rw [hne] at hwhole
    rw [readNumber_of_nil hsign hwhole] at h
    cases h
  · rw [readNumber_of_readWhole hsign hwhole hne hfraction hexponent] at h
    obtain ⟨rfl, hform, hdigits⟩ := eq_of_readWhole hwhole hne
    obtain ⟨rfl, hfractionDigits⟩ := eq_of_readFraction hfraction
    obtain ⟨exponent, rfl, rfl⟩ := exists_of_readExponent hexponent
    cases h
    refine ⟨⟨negative, whole, fraction, exponent, hform, hdigits, hfractionDigits⟩, ?_, ?_⟩
    · simp [Numeral.chars, Numeral.unsigned, Numeral.fractionChars, Numeral.exponentChars]
    · rw [Numeral.value, Numeral.isInteger, Option.isNone_map]
      rfl

end SchemaPages.Json
