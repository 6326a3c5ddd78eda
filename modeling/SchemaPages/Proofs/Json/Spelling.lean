import SchemaPages.Proofs.Json.Numeral
import SchemaPages.Proofs.Pairs

/-!
# How values are written in JSON texts

A text that is read as a value is a spelling of it: words, numerals and quoted texts, in brackets
and braces, with gaps of blank characters wherever they are allowed. `Spelling` is the tree of all
that, with the text that it is (`Spelling.chars`) and the value that it means (`Spelling.value`). It
has nothing in it but what is accepted, and everything: a text is read as a value exactly if it is
written by a document with that value (`read_eq_ok_iff`). What is written without escapes is meant
as it stands (`meantText_strokesOf`).
-/

namespace SchemaPages.Json

/-! ### Parts of a text -/

/-- Blank characters between the parts of a text. -/
abbrev Gap := {chars : List Char // ∀ c ∈ chars, isSpace c}

/-- How a code of a text is written between quotes: as its character, as an escape of one letter, or
as an escape with four digits. -/
inductive Stroke where
  | itself (c : Char) (hquote : c ≠ '"') (hescape : c ≠ '\\') (hcontrol : ¬ c < ' ')
  | letter (c char : Char) (h : escaped? c = some char)
  | code (a b d e : Char) (n : Nat) (h : hexNumber? [a, b, d, e] = some n)

/-- The text of a stroke. -/
def Stroke.chars : Stroke → List Char
  | .itself c .. => [c]
  | .letter c .. => ['\\', c]
  | .code a b d e .. => ['\\', 'u', a, b, d, e]

/-- The code that a stroke means. -/
def Stroke.meaning : Stroke → Nat
  | .itself c .. => c.toNat
  | .letter _ char _ => char.toNat
  | .code _ _ _ _ n _ => n

/-- What strokes write between quotes. -/
def innerChars (strokes : List Stroke) : List Char :=
  strokes.flatMap Stroke.chars

/-- What strokes write, with the quotes. -/
def quotedChars (strokes : List Stroke) : List Char :=
  '"' :: (innerChars strokes ++ ['"'])

/-- The text that strokes mean. -/
def meantText (strokes : List Stroke) : String :=
  String.ofList (charsOfCodes (strokes.map Stroke.meaning))

/-- A value without parts and quotes: a word or a number. -/
inductive Plain where
  | word (entry : String × Json) (h : entry ∈ wordValues)
  | number (n : Numeral)

/-- The text of a plain value. -/
def Plain.chars : Plain → List Char
  | .word entry _ => entry.1.toList
  | .number n => n.chars

/-- The value of a plain value. -/
def Plain.value : Plain → Json
  | .word entry _ => entry.2
  | .number n => n.value

/-! ### Values -/

mutual

/-- A value as it is written. -/
inductive Spelling where
  | plain (value : Plain)
  | text (strokes : List Stroke)
  | array (gap : Gap) (items : Items)
  | object (gap : Gap) (members : Members)

/-- The items of an array that are left, with the gaps around them, up to the closing bracket. -/
inductive Items where
  | close
  | item (before : Gap) (value : Spelling) (after : Gap) (rest : Items)

/-- The members of an object that are left, with the gaps around them, up to the closing brace. -/
inductive Members where
  | close
  | member (before : Gap) (name : List Stroke) (colon : Gap) (between : Gap) (value : Spelling)
      (after : Gap) (rest : Members)

end

/-- The comma in front of what is not first. -/
def comma (first : Bool) : List Char :=
  if first then [] else [',']

mutual

/-- The text of a value. -/
def Spelling.chars : Spelling → List Char
  | .plain value => value.chars
  | .text strokes => quotedChars strokes
  | .array gap items => '[' :: (gap.val ++ items.chars true)
  | .object gap members => '{' :: (gap.val ++ members.chars true)

/-- The text of items; the flag tells whether they are the first ones. -/
def Items.chars (first : Bool) : Items → List Char
  | .close => [']']
  | .item before value after rest =>
    comma first ++ (before.val ++ (value.chars ++ (after.val ++ rest.chars false)))

/-- The text of members; the flag tells whether they are the first ones. -/
def Members.chars (first : Bool) : Members → List Char
  | .close => ['}']
  | .member before name colon between value after rest =>
    comma first ++ (before.val ++ (quotedChars name ++ (colon.val ++
      ':' :: (between.val ++ (value.chars ++ (after.val ++ rest.chars false))))))

end

mutual

/-- The value that is written. -/
def Spelling.value : Spelling → Json
  | .plain value => value.value
  | .text strokes => .string (meantText strokes)
  | .array _ items => .array items.values
  | .object _ members => .object (Pairs.ofList members.values)

/-- The values of items. -/
def Items.values : Items → List Json
  | .close => []
  | .item _ value _ rest => value.value :: rest.values

/-- The names and values of members; names may come again. -/
def Members.values : Members → List (String × Json)
  | .close => []
  | .member _ name _ _ value _ rest => (meantText name, value.value) :: rest.values

end

/-! ### Gaps and texts -/

section

variable {text rest : List Char}

theorem skipSpace_append (gap : Gap) (rest : List Char) :
    skipSpace (gap.val ++ rest) = skipSpace rest :=
  List.dropWhile_append_of_pos gap.property

/-- What starts with a character that is not blank has no gap in front of it. -/
theorem skipSpace_of_head (h : ∀ c ∈ text.head?, isSpace c = false) : skipSpace text = text := by
  cases text with
  | nil => rfl
  | cons c rest =>
    refine List.dropWhile_cons_of_neg ?_
    rw [h c rfl]
    exact Bool.false_ne_true

/-- A text is a gap and what is left of it without blank characters at its start. -/
theorem exists_gap (text : List Char) : ∃ gap : Gap, text = gap.val ++ skipSpace text :=
  ⟨⟨text.takeWhile isSpace, fun _ hc => List.mem_takeWhile_imp hc⟩,
    List.takeWhile_append_dropWhile.symm⟩

theorem innerChars_cons (stroke : Stroke) (strokes : List Stroke) :
    innerChars (stroke :: strokes) = stroke.chars ++ innerChars strokes :=
  rfl

/-- What is written between quotes is read with its codes. -/
theorem readCodes_inner (opening : List Char) (strokes : List Stroke) (rest : List Char) :
    readCodes opening (innerChars strokes ++ '"' :: rest) =
      .ok (strokes.map Stroke.meaning, rest) := by
  induction strokes with
  | nil =>
    change readCodes opening ('"' :: rest) = _
    rw [readCodes.eq_def]
    rfl
  | cons stroke strokes ih =>
    rw [innerChars_cons, List.append_assoc]
    cases stroke with
    | itself c hquote hescape hcontrol =>
      change readCodes opening (c :: (innerChars strokes ++ '"' :: rest)) = _
      rw [readCodes.eq_def]
      dsimp only
      rw [if_neg hquote, if_neg hescape, if_neg hcontrol, ih]
      rfl
    | letter c char h =>
      have hcode : c ≠ 'u' := by
        rintro rfl
        cases h
      change readCodes opening ('\\' :: c :: (innerChars strokes ++ '"' :: rest)) = _
      simp [readCodes, h, hcode, ih]
      rfl
    | code a b d e n h =>
      change readCodes opening
        ('\\' :: 'u' :: a :: b :: d :: e :: (innerChars strokes ++ '"' :: rest)) = _
      simp [readCodes, h, ih]
      rfl

theorem exists_of_addCode {code : Nat} {outcome : Read (List Nat)} {codes : List Nat}
    (h : addCode code outcome = .ok (codes, rest)) :
    ∃ more, outcome = .ok (more, rest) ∧ codes = code :: more := by
  rcases outcome with stop | ⟨more, left⟩
  · cases h
  · cases h
    exact ⟨more, rfl, rfl⟩

/-- Codes that are read are written between quotes. -/
theorem exists_of_readCodes {opening : List Char} {codes : List Nat}
    (h : readCodes opening text = .ok (codes, rest)) :
    ∃ strokes, text = innerChars strokes ++ '"' :: rest ∧
      codes = strokes.map Stroke.meaning := by
  fun_induction readCodes opening text generalizing codes with
  | case1 | case3 | case5 | case6 | case8 | case9 => cases h
  | case2 =>
    cases h
    exact ⟨[], rfl, rfl⟩
  | case4 a b d e more code hcode hne ih =>
    obtain ⟨codes, hmore, rfl⟩ := exists_of_addCode h
    obtain ⟨strokes, rfl, rfl⟩ := ih hmore
    split at hcode
    · cases hcode
    · exact ⟨.code a b d e code hcode :: strokes, rfl, rfl⟩
  | case7 e more hnone hne char hchar hescape ih =>
    obtain ⟨codes, hmore, rfl⟩ := exists_of_addCode h
    obtain ⟨strokes, rfl, rfl⟩ := ih hmore
    exact ⟨.letter e char hchar :: strokes, rfl, rfl⟩
  | case10 c more hquote hescape hcontrol ih =>
    obtain ⟨codes, hmore, rfl⟩ := exists_of_addCode h
    obtain ⟨strokes, rfl, rfl⟩ := ih hmore
    exact ⟨.itself c hquote hescape hcontrol :: strokes, rfl, rfl⟩

theorem readText_quoted (strokes : List Stroke) (rest : List Char) :
    readText (innerChars strokes ++ '"' :: rest) = .ok (meantText strokes, rest) := by
  rw [readText, readCodes_inner]
  rfl

theorem exists_of_readText {value : String} (h : readText text = .ok (value, rest)) :
    ∃ strokes, text = innerChars strokes ++ '"' :: rest ∧ value = meantText strokes := by
  rw [readText] at h
  rcases hcodes : readCodes ('"' :: text) text with stop | ⟨codes, left⟩ <;> rw [hcodes] at h <;>
    cases h
  obtain ⟨strokes, htext, rfl⟩ := exists_of_readCodes hcodes
  exact ⟨strokes, htext, rfl⟩

/-! ### Plain values -/

theorem exists_of_readWord? {found : Json × List Char} (h : readWord? text = some found) :
    ∃ (entry : String × Json) (_ : entry ∈ wordValues), text = entry.1.toList ++ found.2 ∧
      found.1 = entry.2 := by
  rw [readWord?] at h
  obtain ⟨⟨word, value⟩, hentry, rfl⟩ := Option.map_eq_some_iff.mp h
  have hprefix : word.toList.isPrefixOf text = true :=
    List.find?_some (p := fun entry : String × Json => entry.1.toList.isPrefixOf text) hentry
  obtain ⟨rest, rfl⟩ := List.isPrefixOf_iff_prefix.mp hprefix
  refine ⟨(word, value), List.mem_of_find?_eq_some hentry, ?_, rfl⟩
  dsimp only
  rw [← String.length_toList, List.drop_left]

/-- A word is read with its value. -/
theorem readWord?_word {entry : String × Json} (h : entry ∈ wordValues) (rest : List Char) :
    readWord? (entry.1.toList ++ rest) = some (entry.2, rest) := by
  simp only [wordValues, List.mem_cons, List.not_mem_nil, or_false] at h
  rcases h with rfl | rfl | rfl | rfl | rfl | rfl <;> rfl

/-- A numeral is no word. -/
theorem readWord?_numeral (n : Numeral) (rest : List Char) :
    readWord? (n.chars ++ rest) = none := by
  obtain ⟨d, tail, hcons⟩ := List.exists_cons_of_ne_nil n.whole_ne_nil
  have hd : d.isDigit := n.isDigit_whole d (hcons ▸ List.mem_cons_self)
  have hletter : ∀ c, c.isDigit = false → (c == d) = false := by
    intro c hc
    rw [beq_eq_false_iff_ne]
    rintro rfl
    exact absurd (hc.symm.trans hd) Bool.false_ne_true
  rw [Numeral.chars, Numeral.unsigned, hcons, readWord?, Option.map_eq_none_iff]
  cases n.negative with
  | false =>
    simp [signChars, wordValues, List.isPrefixOf, hletter 'n' rfl, hletter 't' rfl, hletter 'f' rfl,
      hletter 'N' rfl, hletter 'I' rfl, hletter '-' rfl]
  | true => simp [signChars, wordValues, List.isPrefixOf, hletter 'I' rfl]

/-- The characters that plain values start with. -/
def startsPlain (c : Char) : Bool :=
  c.isDigit || "-ntfNI".toList.contains c

theorem Plain.exists_head (value : Plain) : ∃ c tail, value.chars = c :: tail ∧ startsPlain c := by
  cases value with
  | word entry h =>
    simp only [wordValues, List.mem_cons, List.not_mem_nil, or_false] at h
    rcases h with rfl | rfl | rfl | rfl | rfl | rfl <;> exact ⟨_, _, rfl, rfl⟩
  | number n =>
    obtain ⟨d, tail, hcons⟩ := List.exists_cons_of_ne_nil n.whole_ne_nil
    have hd : d.isDigit := n.isDigit_whole d (hcons ▸ List.mem_cons_self)
    have hchars : n.chars = signChars n.negative ++ d :: (tail ++ (n.fractionChars ++
        n.exponentChars)) := by
      rw [Numeral.chars, Numeral.unsigned, hcons, List.cons_append]
    rw [Plain.chars, hchars, signChars]
    cases n.negative with
    | false => exact ⟨d, _, rfl, by rw [startsPlain, hd]; rfl⟩
    | true => exact ⟨'-', _, rfl, rfl⟩

/-! ### Reading what is written -/

/-- What follows a value does not go on with a number. -/
theorem endsNumber_cons {c : Char} (hc : isSpace c || c = ',' || c = ']' || c = '}')
    (rest : List Char) : EndsNumber (c :: rest) := by
  have hother : c = ' ' ∨ c = '\t' ∨ c = '\n' ∨ c = '\r' ∨ c = ',' ∨ c = ']' ∨ c = '}' := by
    simpa [isSpace, or_assoc] using hc
  intro d hd
  obtain rfl : c = d := Option.some.inj hd
  rcases hother with rfl | rfl | rfl | rfl | rfl | rfl | rfl <;> decide

theorem endsNumber_gap (gap : Gap) (h : EndsNumber rest) : EndsNumber (gap.val ++ rest) := by
  obtain ⟨_ | ⟨c, more⟩, hgap⟩ := gap
  · exact h
  · exact endsNumber_cons (by simp [hgap c List.mem_cons_self]) _

theorem Items.endsNumber (items : Items) (rest : List Char) :
    EndsNumber (items.chars false ++ rest) := by
  cases items <;> exact endsNumber_cons rfl _

theorem Members.endsNumber (members : Members) (rest : List Char) :
    EndsNumber (members.chars false ++ rest) := by
  cases members <;> exact endsNumber_cons rfl _

/-- A value starts with a character of its own. -/
theorem Spelling.exists_head (value : Spelling) :
    ∃ c tail, value.chars = c :: tail ∧ (startsPlain c || c = '"' || c = '[' || c = '\x7b') := by
  cases value with
  | plain value =>
    obtain ⟨c, tail, hchars, hc⟩ := value.exists_head
    exact ⟨c, tail, hchars, by simp [hc]⟩
  | text => exact ⟨_, _, rfl, rfl⟩
  | array => exact ⟨_, _, rfl, rfl⟩
  | object => exact ⟨_, _, rfl, rfl⟩

/-- Such a character is neither blank nor a mark that closes. -/
theorem isSpace_eq_false_of_head {c : Char}
    (hc : startsPlain c || c = '"' || c = '[' || c = '\x7b') : isSpace c = false ∧ c ≠ ']' := by
  constructor
  · rw [Bool.eq_false_iff]
    intro hspace
    have hblank : c = ' ' ∨ c = '\t' ∨ c = '\n' ∨ c = '\r' := by
      simpa [isSpace, or_assoc] using hspace
    rcases hblank with rfl | rfl | rfl | rfl <;> exact absurd hc (by decide)
  · rintro rfl
    exact absurd hc (by decide)

theorem Spelling.skipSpace_chars (value : Spelling) (rest : List Char) :
    skipSpace (value.chars ++ rest) = value.chars ++ rest := by
  obtain ⟨c, tail, hchars, hc⟩ := value.exists_head
  rw [hchars]
  refine skipSpace_of_head fun d hd => ?_
  obtain rfl : c = d := Option.some.inj hd
  exact (isSpace_eq_false_of_head hc).1

theorem readWord?_or_readNumber_plain (value : Plain) (hrest : EndsNumber rest) :
    (match readWord? (value.chars ++ rest) with
      | some found => Except.ok found
      | none => readNumber (value.chars ++ rest)) = .ok (value.value, rest) := by
  cases value with
  | word entry h =>
    rw [Plain.chars, readWord?_word h]
    rfl
  | number n =>
    rw [Plain.chars, readWord?_numeral]
    exact readNumber_numeral n hrest

theorem readValue_plain (value : Plain) {fuel : Nat} (hrest : EndsNumber rest) :
    readValue (fuel + 1) (value.chars ++ rest) = .ok (value.value, rest) := by
  have hplain := readWord?_or_readNumber_plain value hrest
  obtain ⟨c, tail, hchars, hc⟩ := value.exists_head
  have hmark : c ≠ '"' ∧ c ≠ '[' ∧ c ≠ '\x7b' := by
    refine ⟨?_, ?_, ?_⟩ <;> rintro rfl <;> exact absurd hc (by decide)
  rw [hchars] at hplain ⊢
  rw [readValue.eq_def]
  simp only [List.cons_append]
  split
  · next heq => exact absurd (List.cons.inj heq).1 hmark.1
  · next heq => exact absurd (List.cons.inj heq).1 hmark.2.1
  · next heq => exact absurd (List.cons.inj heq).1 hmark.2.2
  · exact hplain

theorem Items.chars_of_ne_close {items : Items} (h : items ≠ .close) :
    items.chars false = ',' :: items.chars true := by
  cases items with
  | close => exact absurd rfl h
  | item => rfl

theorem Members.chars_of_ne_close {members : Members} (h : members ≠ .close) :
    members.chars false = ',' :: members.chars true := by
  cases members with
  | close => exact absurd rfl h
  | member => rfl

/-- Items start with a value, so they do not start with the closing bracket. -/
theorem Items.skipSpace_chars_ne {items : Items} (h : items ≠ .close) (rest left : List Char) :
    skipSpace (items.chars true ++ rest) ≠ ']' :: left := by
  cases items with
  | close => exact absurd rfl h
  | item before value after items =>
    obtain ⟨c, tail, hchars, hc⟩ := value.exists_head
    rw [Items.chars, comma, if_pos rfl, List.nil_append, List.append_assoc, skipSpace_append,
      List.append_assoc, value.skipSpace_chars, hchars]
    exact fun heq => (isSpace_eq_false_of_head hc).2 (List.cons.inj heq).1

/-- Members start with a quote, so they do not start with the closing brace. -/
theorem Members.skipSpace_chars_ne {members : Members} (h : members ≠ .close)
    (rest left : List Char) : skipSpace (members.chars true ++ rest) ≠ '\x7d' :: left := by
  cases members with
  | close => exact absurd rfl h
  | member before name colon between value after members =>
    rw [Members.chars, comma, if_pos rfl, List.nil_append, List.append_assoc, skipSpace_append,
      quotedChars]
    exact fun heq => absurd (List.cons.inj heq).1 (by decide)

mutual

/-- A value is read from its text. -/
theorem Spelling.readValue_chars {rest : List Char} (hrest : EndsNumber rest) :
    ∀ (value : Spelling) (fuel : Nat), 2 * value.chars.length ≤ fuel →
      readValue fuel (value.chars ++ rest) = .ok (value.value, rest)
  | .plain value, fuel, hfuel => by
    obtain ⟨c, tail, hchars, -⟩ := value.exists_head
    obtain ⟨fuel, rfl⟩ : ∃ n, fuel = n + 1 := Nat.exists_eq_add_one.mpr (by
      rw [Spelling.chars, hchars, List.length_cons] at hfuel
      omega)
    exact readValue_plain value hrest
  | .text strokes, fuel, hfuel => by
    obtain ⟨fuel, rfl⟩ : ∃ n, fuel = n + 1 := Nat.exists_eq_add_one.mpr (by
      rw [Spelling.chars, quotedChars, List.length_cons] at hfuel
      omega)
    rw [Spelling.chars, quotedChars, List.cons_append, List.append_assoc]
    change (readText (innerChars strokes ++ '"' :: rest)).map _ = _
    rw [readText_quoted]
    rfl
  | .array gap items, fuel, hfuel => by
    rw [Spelling.chars, List.length_cons, List.length_append] at hfuel
    obtain ⟨fuel, rfl⟩ : ∃ n, fuel = n + 1 := Nat.exists_eq_add_one.mpr (by omega)
    rw [Spelling.chars, List.cons_append, List.append_assoc, readValue.eq_def]
    simp only [skipSpace_append]
    by_cases hclose : items = .close
    · subst hclose
      rfl
    · have hitems := items.readItems_chars rest fuel hclose (by omega)
      split
      · next heq => exact absurd heq (Items.skipSpace_chars_ne hclose rest _)
      · rw [hitems]
        rfl
  | .object gap members, fuel, hfuel => by
    rw [Spelling.chars, List.length_cons, List.length_append] at hfuel
    obtain ⟨fuel, rfl⟩ : ∃ n, fuel = n + 1 := Nat.exists_eq_add_one.mpr (by omega)
    rw [Spelling.chars, List.cons_append, List.append_assoc, readValue.eq_def]
    simp only [skipSpace_append]
    by_cases hclose : members = .close
    · subst hclose
      rfl
    · have hmembers := members.readMembers_chars rest [] fuel hclose (by omega)
      split
      · next heq => exact absurd heq (Members.skipSpace_chars_ne hclose rest _)
      · rw [hmembers]
        rfl

/-- The items of an array are read from their text. -/
theorem Items.readItems_chars (rest : List Char) :
    ∀ (items : Items) (fuel : Nat), items ≠ .close → 2 * (items.chars true).length < fuel →
      readItems fuel (skipSpace (items.chars true ++ rest)) = .ok (items.values, rest)
  | .close, _, hclose, _ => absurd rfl hclose
  | .item before value after items, fuel, _, hfuel => by
    rw [Items.chars, comma, if_pos rfl, List.nil_append] at hfuel ⊢
    simp only [List.length_append] at hfuel
    obtain ⟨fuel, rfl⟩ : ∃ n, fuel = n + 1 := Nat.exists_eq_add_one.mpr (by omega)
    have hends := endsNumber_gap after (items.endsNumber rest)
    have hvalue := value.readValue_chars hends fuel (by omega)
    rw [List.append_assoc, skipSpace_append, List.append_assoc, List.append_assoc,
      value.skipSpace_chars, readItems, hvalue]
    simp only [skipSpace_append]
    by_cases hclose : items = .close
    · subst hclose
      rfl
    · rw [Items.chars_of_ne_close hclose, List.length_cons] at hfuel
      have hitems := items.readItems_chars rest fuel hclose (by omega)
      rw [Items.chars_of_ne_close hclose, List.cons_append, skipSpace_of_head (by simp [isSpace])]
      simp only [hitems]
      rfl

/-- The members of an object are read from their text. -/
theorem Members.readMembers_chars (rest : List Char) :
    ∀ (members : Members) (found : List (String × Json)) (fuel : Nat), members ≠ .close →
      2 * (members.chars true).length < fuel →
      readMembers fuel found (skipSpace (members.chars true ++ rest)) =
        .ok (Pairs.insertAll members.values found, rest)
  | .close, _, _, hclose, _ => absurd rfl hclose
  | .member before name colon between value after members, found, fuel, _, hfuel => by
    rw [Members.chars, comma, if_pos rfl, List.nil_append] at hfuel ⊢
    simp only [List.length_append, List.length_cons] at hfuel
    obtain ⟨fuel, rfl⟩ : ∃ n, fuel = n + 1 := Nat.exists_eq_add_one.mpr (by omega)
    have hends := endsNumber_gap after (members.endsNumber rest)
    have hvalue := value.readValue_chars hends fuel (by omega)
    have hcolon : ∀ more, skipSpace (':' :: more) = ':' :: more :=
      fun more => skipSpace_of_head (by simp [isSpace])
    rw [quotedChars]
    simp only [List.append_assoc, List.cons_append, List.nil_append, skipSpace_append]
    rw [skipSpace_of_head (by simp [isSpace]), readMembers, readText_quoted]
    simp only [skipSpace_append, hcolon, value.skipSpace_chars, hvalue]
    by_cases hclose : members = .close
    · subst hclose
      rfl
    · rw [Members.chars_of_ne_close hclose, List.length_cons] at hfuel
      have hmembers := members.readMembers_chars rest
        (Pairs.insert (meantText name) value.value found) fuel hclose (by omega)
      rw [Members.chars_of_ne_close hclose, List.cons_append, skipSpace_of_head (by simp [isSpace])]
      simp only [hmembers]
      rfl

end

/-! ### Writing what is read -/

/-- What is read within a number of steps is written as a spelling. -/
structure WrittenWithin (fuel : Nat) : Prop where
  value : ∀ {text rest : List Char} {value : Json}, readValue fuel text = .ok (value, rest) →
    ∃ spelling : Spelling, text = spelling.chars ++ rest ∧ value = spelling.value
  items : ∀ {text rest : List Char} {values : List Json},
    readItems fuel text = .ok (values, rest) →
      ∃ (item : Spelling) (after : Gap) (items : Items),
        text = item.chars ++ (after.val ++ (items.chars false ++ rest)) ∧
          values = item.value :: items.values
  members : ∀ {text rest : List Char} {found members : List (String × Json)},
    readMembers fuel found text = .ok (members, rest) →
      ∃ (name : List Stroke) (colon between : Gap) (value : Spelling) (after : Gap)
        (left : Members),
        text = quotedChars name ++ (colon.val ++ ':' :: (between.val ++ (value.chars ++
            (after.val ++ (left.chars false ++ rest))))) ∧
          members = Pairs.insertAll ((meantText name, value.value) :: left.values) found

/-- No gap. -/
def Gap.none : Gap :=
  ⟨[], fun _ h => nomatch h⟩

variable {fuel : Nat}

theorem exists_of_readValue (ih : WrittenWithin fuel) {value : Json}
    (h : readValue (fuel + 1) text = .ok (value, rest)) :
    ∃ spelling : Spelling, text = spelling.chars ++ rest ∧ value = spelling.value := by
  rw [readValue.eq_def] at h
  dsimp only at h
  split at h
  · next more =>
    rcases htext : readText more with stop | ⟨found, left⟩ <;> rw [htext] at h <;> cases h
    obtain ⟨strokes, rfl, rfl⟩ := exists_of_readText htext
    exact ⟨.text strokes, by simp [Spelling.chars, quotedChars], rfl⟩
  · next more =>
    obtain ⟨gap, hgap⟩ := exists_gap more
    split at h
    · next left hclose =>
      cases h
      rw [hgap, hclose]
      exact ⟨.array gap .close, by simp [Spelling.chars, Items.chars], rfl⟩
    · rcases hitems : readItems fuel (skipSpace more) with stop | ⟨found, left⟩ <;>
        rw [hitems] at h <;> cases h
      obtain ⟨item, after, items, htext, rfl⟩ := ih.items hitems
      rw [hgap, htext]
      exact ⟨.array gap (.item Gap.none item after items),
        by simp [Spelling.chars, Items.chars, comma, Gap.none], rfl⟩
  · next more =>
    obtain ⟨gap, hgap⟩ := exists_gap more
    split at h
    · next left hclose =>
      cases h
      rw [hgap, hclose]
      exact ⟨.object gap .close, by simp [Spelling.chars, Members.chars], rfl⟩
    · rcases hmembers : readMembers fuel [] (skipSpace more) with stop | ⟨found, left⟩ <;>
        rw [hmembers] at h <;> cases h
      obtain ⟨name, colon, between, value, after, members, htext, rfl⟩ := ih.members hmembers
      rw [hgap, htext]
      exact ⟨.object gap (.member Gap.none name colon between value after members),
        by simp [Spelling.chars, Members.chars, comma, Gap.none], rfl⟩
  · split at h
    · next found hword =>
      cases h
      obtain ⟨entry, hentry, htext, hvalue⟩ := exists_of_readWord? hword
      exact ⟨.plain (.word entry hentry), htext, hvalue⟩
    · obtain ⟨n, htext, rfl⟩ := exists_of_readNumber h
      exact ⟨.plain (.number n), htext, rfl⟩

theorem exists_of_readItems (ih : WrittenWithin fuel) {values : List Json}
    (h : readItems (fuel + 1) text = .ok (values, rest)) :
    ∃ (item : Spelling) (after : Gap) (items : Items),
      text = item.chars ++ (after.val ++ (items.chars false ++ rest)) ∧
        values = item.value :: items.values := by
  rw [readItems] at h
  split at h
  · cases h
  next value left hvalue =>
  obtain ⟨item, rfl, rfl⟩ := ih.value hvalue
  obtain ⟨after, hafter⟩ := exists_gap left
  split at h
  · next hclose =>
    cases h
    rw [hafter, hclose]
    exact ⟨item, after, .close, by simp [Items.chars], rfl⟩
  · next more hcomma =>
    rcases hitems : readItems fuel (skipSpace more) with stop | ⟨found, left⟩ <;>
      rw [hitems] at h <;> cases h
    obtain ⟨before, hbefore⟩ := exists_gap more
    obtain ⟨next, after', items, htext, rfl⟩ := ih.items hitems
    rw [hafter, hcomma, hbefore, htext]
    exact ⟨item, after, .item before next after' items, by simp [Items.chars, comma], rfl⟩
  · cases h

theorem exists_of_readMembers (ih : WrittenWithin fuel) {found members : List (String × Json)}
    (h : readMembers (fuel + 1) found text = .ok (members, rest)) :
    ∃ (name : List Stroke) (colon between : Gap) (value : Spelling) (after : Gap)
      (left : Members),
      text = quotedChars name ++ (colon.val ++ ':' :: (between.val ++ (value.chars ++
          (after.val ++ (left.chars false ++ rest))))) ∧
        members = Pairs.insertAll ((meantText name, value.value) :: left.values) found := by
  rw [readMembers.eq_def] at h
  dsimp only at h
  split at h
  · split at h
    · cases h
    next name afterName hname =>
    obtain ⟨strokes, rfl, rfl⟩ := exists_of_readText hname
    obtain ⟨colon, hcolon⟩ := exists_gap afterName
    split at h
    · next afterColon hmark =>
      obtain ⟨between, hbetween⟩ := exists_gap afterColon
      split at h
      · cases h
      next value afterValue hvalue =>
      obtain ⟨spelling, htext, rfl⟩ := ih.value hvalue
      obtain ⟨after, hafter⟩ := exists_gap afterValue
      rw [hcolon, hmark, hbetween, htext, hafter]
      split at h
      · next left hclose =>
        cases h
        rw [hclose]
        exact ⟨strokes, colon, between, spelling, after, .close,
          by simp [quotedChars, Members.chars], rfl⟩
      · next more hcomma =>
        obtain ⟨before, hbefore⟩ := exists_gap more
        obtain ⟨name', colon', between', value', after', members', htext', rfl⟩ := ih.members h
        rw [hcomma, hbefore, htext']
        exact ⟨strokes, colon, between, spelling, after,
          .member before name' colon' between' value' after' members',
          by simp [quotedChars, Members.chars, comma], rfl⟩
      · cases h
    · cases h
  · cases h

theorem writtenWithin (fuel : Nat) : WrittenWithin fuel := by
  -- each reader calls the others with one step less, so the statements are proved together
  induction fuel with
  | zero =>
    exact ⟨fun h => (nomatch h), fun h => (nomatch h), fun h => (nomatch h)⟩
  | succ fuel ih =>
    exact ⟨exists_of_readValue ih, exists_of_readItems ih, exists_of_readMembers ih⟩

end

/-! ### Whole texts -/

/-- A text with one value, as it is written. -/
structure Document where
  before : Gap
  value : Spelling
  after : Gap

/-- The characters of a document. -/
def Document.chars (document : Document) : List Char :=
  document.before.val ++ (document.value.chars ++ document.after.val)

/-- The text of a document. -/
def Document.text (document : Document) : String :=
  String.ofList document.chars

/-- No document starts with a byte order mark. -/
theorem Document.head_ne (document : Document) (rest : List Char) :
    document.chars ≠ '\uFEFF' :: rest := by
  obtain ⟨⟨_ | ⟨c, before⟩, hbefore⟩, value, after⟩ := document
  · obtain ⟨c, tail, hchars, hc⟩ := value.exists_head
    rw [Document.chars, List.nil_append, hchars]
    rintro ⟨⟩
    exact absurd hc (by decide)
  · rintro ⟨⟩
    exact absurd (hbefore _ List.mem_cons_self) (by decide)

theorem readChars_document (document : Document) :
    readChars document.chars = .ok document.value.value := by
  have hafter : EndsNumber document.after.val := by
    have h : EndsNumber (document.after.val ++ []) :=
      endsNumber_gap document.after fun _ hc => nomatch hc
    rwa [List.append_nil] at h
  have hend : skipSpace document.after.val = [] := by
    have h := skipSpace_append document.after []
    rwa [List.append_nil] at h
  have hvalue := document.value.readValue_chars hafter (2 * document.chars.length + 2) (by
    simp only [Document.chars, List.length_append]
    omega)
  have hstart : skipSpace document.chars = document.value.chars ++ document.after.val := by
    rw [Document.chars, skipSpace_append, Spelling.skipSpace_chars]
  rw [readChars.eq_def]
  split
  · next rest heq => exact absurd heq (document.head_ne rest)
  · rw [hstart, hvalue]
    simp only [hend]

/-- **JSON texts and their spellings.** A text is read as a value exactly if it is that of a
document with this value. -/
theorem read_eq_ok_iff {text : String} {value : Json} :
    read text = .ok value ↔ ∃ document : Document, text = document.text ∧
      value = document.value.value := by
  have hread : read text = .ok value ↔ readChars text.toList = .ok value := by
    rw [read]
    cases readChars text.toList <;> simp [Except.mapError]
  rw [hread]
  constructor
  · intro h
    rw [readChars.eq_def] at h
    split at h
    · cases h
    split at h
    · cases h
    next found left hvalue =>
    obtain ⟨before, hbefore⟩ := exists_gap text.toList
    obtain ⟨spelling, htext, rfl⟩ := (writtenWithin _).value hvalue
    obtain ⟨after, hafter⟩ := exists_gap left
    split at h
    · next hend =>
      cases h
      rw [hend, List.append_nil] at hafter
      refine ⟨⟨before, spelling, after⟩, ?_, rfl⟩
      rw [Document.text, Document.chars, ← hafter, ← htext, ← hbefore, String.ofList_toList]
    · cases h
  · rintro ⟨document, rfl, rfl⟩
    rw [Document.text, String.toList_ofList]
    exact readChars_document document

/-! ### Halves of a pair -/

/-- Whether no escape among strokes is half of a pair. -/
def Whole (strokes : List Stroke) : Prop :=
  ∀ stroke ∈ strokes, isHighHalf stroke.meaning = false ∧ isLowHalf stroke.meaning = false

instance (strokes : List Stroke) : Decidable (Whole strokes) :=
  inferInstanceAs (Decidable (∀ stroke ∈ strokes, _))

/-- Without halves each code is a character of its own. -/
theorem charsOfCodes_eq_map {codes : List Nat} (h : ∀ code ∈ codes, isHighHalf code = false) :
    charsOfCodes codes = codes.map charOfCode := by
  induction codes with
  | nil => rfl
  | cons code rest ih =>
    obtain ⟨hcode, hrest⟩ := List.forall_mem_cons.mp h
    rw [charsOfCodes.eq_def]
    dsimp only
    rw [hcode, if_neg Bool.false_ne_true, ih hrest, List.map_cons]

theorem Whole.meantText_eq {strokes : List Stroke} (h : Whole strokes) :
    meantText strokes = String.ofList ((strokes.map Stroke.meaning).map charOfCode) := by
  rw [meantText, charsOfCodes_eq_map (List.forall_mem_map.mpr fun stroke hmem => (h stroke hmem).1)]

/-! ### Texts without escapes -/

/-- No character is half of a pair. -/
theorem isHalf_toNat (c : Char) : isHighHalf c.toNat = false ∧ isLowHalf c.toNat = false := by
  have hvalid : c.toNat < 0xD800 ∨ 0xDFFF < c.toNat ∧ c.toNat < 0x110000 := c.valid
  simp only [isHighHalf, isLowHalf, Bool.and_eq_false_iff, decide_eq_false_iff_not]
  omega

theorem charOfCode_toNat (c : Char) : charOfCode c.toNat = c := by
  rw [charOfCode, (isHalf_toNat c).1, (isHalf_toNat c).2]
  exact Char.ofNat_toNat c

/-- Whether a character can stand between quotes as itself. -/
def IsItself (c : Char) : Prop :=
  c ≠ '"' ∧ c ≠ '\\' ∧ ¬ c < ' '

instance (c : Char) : Decidable (IsItself c) :=
  inferInstanceAs (Decidable (_ ∧ _))

/-- The strokes of characters that are written as themselves. -/
def strokesOf (text : String) : List Stroke :=
  text.toList.filterMap fun c => if h : IsItself c then some (.itself c h.1 h.2.1 h.2.2) else none

/-- A text that is written without escapes is meant as it stands. -/
theorem meantText_strokesOf {text : String} (h : text.toList.all fun c => IsItself c) :
    meantText (strokesOf text) = text := by
  have hcodes : (strokesOf text).map Stroke.meaning = text.toList.map Char.toNat := by
    rw [strokesOf]
    generalize text.toList = chars at h ⊢
    induction chars with
    | nil => rfl
    | cons c rest ih =>
      rw [List.all_cons, Bool.and_eq_true, decide_eq_true_iff] at h
      rw [List.filterMap_cons_some (dif_pos h.1), List.map_cons, ih h.2]
      rfl
  have hwhole : ∀ code ∈ text.toList.map Char.toNat, isHighHalf code = false :=
    List.forall_mem_map.mpr fun c _ => (isHalf_toNat c).1
  have hchars : text.toList.map (charOfCode ∘ Char.toNat) = text.toList :=
    List.map_id'' charOfCode_toNat _
  rw [meantText, hcodes, charsOfCodes_eq_map hwhole, List.map_map, hchars, String.ofList_toList]

end SchemaPages.Json
