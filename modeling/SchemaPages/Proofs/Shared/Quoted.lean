import SchemaPages.Proofs.Json.Spelling
import SchemaPages.Yaml.Token.Quoted

/-!
# Quoted texts in both notations

A quoted text of JSON is read as a scalar between double quotes. The escapes of JSON are among those
of YAML, with the same codes, and a character stands for itself in both notations. What differs are
blank characters: a tab is blank in YAML, and three characters end lines there that do not in JSON.
A quoted text without them is read with the same codes (`doubleCodes_inner`). The codes are then the
same characters unless two of them are the halves of a pair, which only JSON puts together
(`charsOfCodes_eq_map`).
-/

namespace SchemaPages.Yaml

open Json (Stroke innerChars)

/-- Whether a character that may occur in a document is read alike in both notations. -/
def isShared (c : Char) : Bool :=
  c ≠ '\t' && c ≠ '\x85' && c ≠ '\u2028' && c ≠ '\u2029'

/-! ### Moving a cursor -/

namespace Cursor

variable {c : Cursor} {rest : List Char}

@[simp]
theorem rest_next (c : Cursor) : c.next.rest = c.rest.tail := by
  rw [next.eq_def]
  split
  · next h => rw [h]; rfl
  · next h =>
    dsimp only
    rw [h]
    split <;> rfl

@[simp]
theorem size_next (c : Cursor) : c.next.size = c.size := by
  rw [next.eq_def]
  split
  · rfl
  · dsimp only
    split <;> rfl

@[simp]
theorem rest_advance (c : Cursor) (n : Nat) : (c.advance n).rest = c.rest.drop n := by
  induction n generalizing c with
  | zero => rfl
  | succ n ih => rw [advance, ih, rest_next, List.drop_tail]

@[simp]
theorem size_advance (c : Cursor) (n : Nat) : (c.advance n).size = c.size := by
  induction n generalizing c with
  | zero => rfl
  | succ n ih => rw [advance, ih, size_next]

theorem advance_advance (c : Cursor) (m n : Nat) :
    (c.advance m).advance n = c.advance (m + n) := by
  induction m generalizing c with
  | zero => rw [advance, Nat.zero_add]
  | succ m ih => rw [advance, ih, Nat.succ_add, advance]

theorem next_advance (c : Cursor) (n : Nat) : c.next.advance n = c.advance (n + 1) :=
  rfl

theorem rest_advance_append {text : List Char} (h : c.rest = text ++ rest) :
    (c.advance text.length).rest = rest := by
  rw [rest_advance, h, List.drop_left]

/-- A cursor stays on its line as long as it does not pass the end of it. -/
theorem line_advance {text : List Char} (h : c.rest = text ++ rest)
    (hline : ∀ d ∈ text, isBreak d = false) :
    (c.advance text.length).line = c.line ∧
      (c.advance text.length).index = c.index + text.length := by
  induction text generalizing c with
  | nil => exact ⟨rfl, rfl⟩
  | cons d text ih =>
    obtain ⟨hd, htext⟩ := List.forall_mem_cons.mp hline
    have hnext : c.next.line = c.line ∧ c.next.index = c.index + 1 := by
      rw [next.eq_def, h]
      simp [hd]
    obtain ⟨hlines, hindex⟩ := ih (c := c.next) (by rw [rest_next, h]; rfl) htext
    rw [List.length_cons, advance, hlines, hindex, hnext.1, hnext.2]
    exact ⟨rfl, by omega⟩

theorem lineBreak?_eq_none (h : ∀ d ∈ c.rest.head?, isBreak d = false) : c.lineBreak? = none := by
  rw [lineBreak?.eq_def]
  split
  · next heq => exact absurd (h '\r' (by rw [heq]; rfl)) (by decide)
  · next d more _ heq =>
    have hd : isBreak d = false := h d (by rw [heq]; rfl)
    have hseparator : ¬ ((d = '\u2028' || d = '\u2029') = true) := by
      intro hor
      rcases Bool.or_eq_true_iff.mp hor with hsame | hsame <;>
        rw [of_decide_eq_true hsame] at hd <;> exact absurd hd (by decide)
    rw [if_neg hseparator, if_neg (by rw [hd]; exact Bool.false_ne_true)]
  · rfl

end Cursor

/-! ### Quoted texts -/

/-- A character between quotes is blank only if it is a space. -/
theorem isGapOrBreak_eq_false {c : Char} (hcontrol : ¬ c < ' ') (hshared : isShared c)
    (hspace : c ≠ ' ') : isGapOrBreak c = false := by
  have hother : c ≠ '\t' ∧ c ≠ '\x85' ∧ c ≠ '\u2028' ∧ c ≠ '\u2029' := by
    simpa [isShared, and_assoc] using hshared
  have hline : c ≠ '\n' ∧ c ≠ '\r' := by
    constructor <;> rintro rfl <;> exact hcontrol (by decide)
  simp [isGapOrBreak, isBreak, hspace, hother, hline]

namespace Quoted

variable {c : Cursor} {rest : List Char}

/-- The escapes of one letter are the same. -/
theorem lookup_letterEscapes {letter char : Char} (h : Json.escaped? letter = some char) :
    letterEscapes.lookup letter = some char := by
  rw [Json.escaped?.eq_def] at h
  split at h <;> cases h <;> rfl

theorem hexDigit?_lt {c : Char} {n : Nat} (h : Json.hexDigit? c = some n) : n < 16 := by
  have hcode : ∀ {low high : Char}, (low ≤ c && c ≤ high) = true →
      low.toNat ≤ c.toNat ∧ c.toNat ≤ high.toNat := by
    intro low high hc
    simpa [Char.le_def, UInt32.le_iff_toNat_le] using hc
  rw [Json.hexDigit?] at h
  split at h
  · next hc =>
    have := hcode hc
    cases h
    simp at this ⊢
    omega
  · split at h
    · next hc =>
      have := hcode hc
      cases h
      simp at this ⊢
      omega
    · split at h
      · next hc =>
        have := hcode hc
        cases h
        simp at this ⊢
        omega
      · cases h

/-- A number is written with digits only. -/
theorem exists_hexDigit? {digits : List Char} {d : Char} (hd : d ∈ digits) {n : Nat}
    (h : Json.hexNumber? digits = some n) : ∃ value, Json.hexDigit? d = some value := by
  rw [Json.hexNumber?] at h
  generalize 0 = start at h
  induction digits generalizing start with
  | nil => cases hd
  | cons e digits ih =>
    rw [List.foldlM_cons, Option.bind_eq_bind, Option.bind_eq_some_iff] at h
    obtain ⟨next, hfirst, hmore⟩ := h
    rcases List.mem_cons.mp hd with rfl | hd
    · obtain ⟨value, hvalue, -⟩ := Option.map_eq_some_iff.mp hfirst
      exact ⟨value, hvalue⟩
    · exact ih hd next hmore

/-- A quoted text is on one line. -/
theorem isBreak_eq_false {strokes : List Stroke} {d : Char} (hd : d ∈ innerChars strokes)
    (hshared : isShared d) : isBreak d = false := by
  obtain ⟨stroke, -, hd⟩ := List.mem_flatMap.mp hd
  have hline : d ≠ '\n' ∧ d ≠ '\r' := by
    cases stroke with
    | itself c hquote hescape hcontrol =>
      obtain rfl : d = c := List.mem_singleton.mp hd
      constructor <;> rintro rfl <;> exact hcontrol (by decide)
    | letter c char h =>
      have hkind : d = '\\' ∨ d = c := by simpa [Stroke.chars] using hd
      rcases hkind with rfl | rfl
      · decide
      · constructor <;> rintro rfl <;> cases h
    | code a b e f n h =>
      have hkind : d = '\\' ∨ d = 'u' ∨ d ∈ [a, b, e, f] := by simpa [Stroke.chars] using hd
      rcases hkind with rfl | rfl | hdigit
      · decide
      · decide
      · obtain ⟨value, hvalue⟩ := exists_hexDigit? hdigit h
        constructor <;> rintro rfl <;> cases hvalue
  have hother : d ≠ '\x85' ∧ d ≠ '\u2028' ∧ d ≠ '\u2029' := by
    have hall : d ≠ '\t' ∧ d ≠ '\x85' ∧ d ≠ '\u2028' ∧ d ≠ '\u2029' := by
      simpa [isShared, and_assoc] using hshared
    exact hall.2
  simp [isBreak, hline, hother]

/-- Four digits write a code that is in range. -/
theorem hexNumber?_lt {a b d e : Char} {n : Nat} (h : Json.hexNumber? [a, b, d, e] = some n) :
    n < 0x110000 := by
  simp only [Json.hexNumber?, List.foldlM_cons, List.foldlM_nil, Option.bind_eq_bind,
    Option.bind_eq_some_iff, Option.map_eq_some_iff, Option.pure_def, Option.some.injEq] at h
  obtain ⟨_, ⟨x, hx, rfl⟩, _, ⟨y, hy, rfl⟩, _, ⟨z, hz, rfl⟩, _, ⟨w, hw, rfl⟩, rfl⟩ := h
  have := hexDigit?_lt hx
  have := hexDigit?_lt hy
  have := hexDigit?_lt hz
  have := hexDigit?_lt hw
  omega

/-- The spaces that a text starts with. -/
theorem exists_spaces (strokes : List Stroke) :
    ∃ (n : Nat) (tail : List Stroke),
      innerChars strokes = List.replicate n ' ' ++ innerChars tail ∧
        strokes.map Stroke.meaning = List.replicate n 32 ++ tail.map Stroke.meaning ∧
        ∀ more, (innerChars tail ++ '"' :: more).head? ≠ some ' ' := by
  induction strokes with
  | nil => exact ⟨0, [], rfl, rfl, fun _ h => nomatch h⟩
  | cons stroke strokes ih =>
    have hsame : (∀ more, (stroke.chars ++ more).head? ≠ some ' ') →
        ∃ (n : Nat) (tail : List Stroke),
          innerChars (stroke :: strokes) = List.replicate n ' ' ++ innerChars tail ∧
            (stroke :: strokes).map Stroke.meaning =
              List.replicate n 32 ++ tail.map Stroke.meaning ∧
            ∀ more, (innerChars tail ++ '"' :: more).head? ≠ some ' ' := by
      intro hhead
      refine ⟨0, stroke :: strokes, rfl, rfl, fun more => ?_⟩
      rw [Json.innerChars_cons, List.append_assoc]
      exact hhead _
    cases stroke with
    | itself c hquote hescape hcontrol =>
      by_cases hspace : c = ' '
      · obtain ⟨n, tail, hchars, hcodes, hhead⟩ := ih
        subst hspace
        refine ⟨n + 1, tail, ?_, ?_, hhead⟩
        · rw [Json.innerChars_cons, hchars]
          rfl
        · rw [List.map_cons, hcodes]
          rfl
      · exact hsame fun more h => hspace (Option.some.inj h)
    | letter c char h => exact hsame fun more h => nomatch h
    | code a b d e n h => exact hsame fun more h => nomatch h

/-- Behind its spaces a text goes on with no gap. -/
theorem isGapOrBreak_head (strokes : List Stroke)
    (hshared : ∀ d ∈ innerChars strokes, isShared d)
    (hhead : (innerChars strokes ++ '"' :: rest).head? ≠ some ' ') :
    ∀ d ∈ (innerChars strokes ++ '"' :: rest).head?, isGapOrBreak d = false := by
  cases strokes with
  | nil =>
    rintro _ ⟨⟩
    rfl
  | cons stroke strokes =>
    rw [Json.innerChars_cons] at hshared hhead ⊢
    cases stroke with
    | itself c hquote hescape hcontrol =>
      rintro _ ⟨⟩
      exact isGapOrBreak_eq_false hcontrol (hshared c List.mem_cons_self)
        fun hspace => hhead (congrArg some hspace)
    | letter c char h =>
      rintro _ ⟨⟩
      rfl
    | code a b d e n h =>
      rintro _ ⟨⟩
      rfl

/-- Spaces stand for themselves, if they are not at the end of a line. -/
theorem gap_spaces {fuel n : Nat} (hrest : c.rest = List.replicate n ' ' ++ rest)
    (hhead : ∀ d ∈ rest.head?, isGapOrBreak d = false) :
    gap fuel c = .ok (List.replicate n ' ', c.advance n) := by
  have htake : c.rest.takeWhile isGap = List.replicate n ' ' := by
    rw [hrest, List.takeWhile_append_of_pos (by simp [isGap])]
    cases rest with
    | nil => simp
    | cons d more =>
      have hd : ¬ isGap d = true := by
        have := hhead d rfl
        simp_all [isGapOrBreak, isGap]
      rw [List.takeWhile_cons_of_neg hd, List.append_nil]
  have hafter : (c.advance n).rest = rest := by
    rw [Cursor.rest_advance, hrest, List.drop_left' List.length_replicate]
  have hbreak : (c.advance n).lineBreak? = none := by
    refine Cursor.lineBreak?_eq_none fun d hd => ?_
    have := hhead d (hafter ▸ hd)
    simp_all [isGapOrBreak]
  rw [gap, Cursor.span, htake]
  dsimp only
  rw [List.length_replicate, hbreak]

/-- What has been read is followed by what is read then. -/
theorem bind_doubleCodes {outcome : Except Fault (List Nat × Cursor)} {fuel : Nat}
    {codes more : List Nat} {after last : Cursor} (hfirst : outcome = .ok (codes, after))
    (hmore : doubleCodes fuel after = .ok (more, last)) :
    (do
      let (codes, c) ← outcome
      let (more, c) ← doubleCodes fuel c
      return (codes ++ more, c)) = .ok (codes ++ more, last) := by
  rw [hfirst]
  change (doubleCodes fuel after >>= _) = _
  rw [hmore]
  rfl

/-- What is read first stands in front of what is read then. -/
theorem doubleCodes_of_ok {fuel : Nat} {char : Char} (codes : List Nat) {more : List Nat}
    {after last : Cursor} (hpeek : c.peek = some char) (hquote : char ≠ '"')
    (hfirst : (if char = '\\' then escape fuel c.next
      else if isGapOrBreak char then
        (gap fuel c).map fun (chars, c) => (chars.map Char.toNat, c)
      else .ok ([char.toNat], c.next)) = .ok (codes, after))
    (hmore : doubleCodes fuel after = .ok (more, last)) :
    doubleCodes (fuel + 1) c = .ok (codes ++ more, last) := by
  rw [doubleCodes, hpeek]
  split
  · next h => cases h
  · next h => exact absurd (Option.some.inj h) hquote
  · next h =>
    cases h
    by_cases hescape : char = '\\'
    · rw [if_pos hescape] at hfirst
      simp only [if_pos hescape]
      exact bind_doubleCodes hfirst hmore
    · rw [if_neg hescape] at hfirst
      simp only [if_neg hescape]
      split at hfirst
      · next hgap =>
        rw [if_pos hgap]
        exact bind_doubleCodes hfirst hmore
      · next hgap =>
        rw [if_neg hgap]
        exact bind_doubleCodes hfirst hmore

/-- Spaces are read together. -/
theorem doubleCodes_spaces {fuel n : Nat} {more : List Nat} {last : Cursor}
    (hrest : c.rest = List.replicate (n + 1) ' ' ++ rest)
    (hhead : ∀ d ∈ rest.head?, isGapOrBreak d = false)
    (hmore : doubleCodes fuel (c.advance (n + 1)) = .ok (more, last)) :
    doubleCodes (fuel + 1) c = .ok (List.replicate (n + 1) 32 ++ more, last) := by
  have hpeek : c.peek = some ' ' := by
    rw [Cursor.peek, hrest]
    rfl
  refine doubleCodes_of_ok (List.replicate (n + 1) 32) hpeek (by decide) ?_ hmore
  rw [gap_spaces hrest hhead]
  simp [Except.map, isGapOrBreak]

/-- A character that is no space stands for itself. -/
theorem doubleCodes_itself {fuel : Nat} {char : Char} {more : List Nat} {last : Cursor}
    (hquote : char ≠ '"') (hescape : char ≠ '\\') (hcontrol : ¬ char < ' ')
    (hshared : isShared char) (hspace : char ≠ ' ') (hrest : c.rest = char :: rest)
    (hmore : doubleCodes fuel (c.advance 1) = .ok (more, last)) :
    doubleCodes (fuel + 1) c = .ok (char.toNat :: more, last) := by
  have hpeek : c.peek = some char := by
    rw [Cursor.peek, hrest]
    rfl
  refine doubleCodes_of_ok [char.toNat] hpeek hquote ?_ hmore
  rw [if_neg hescape, isGapOrBreak_eq_false hcontrol hshared hspace]
  rfl

/-- An escape of one letter is read as its character. -/
theorem escape_letter {fuel : Nat} {letter char : Char} (h : Json.escaped? letter = some char)
    (hrest : c.rest = '\\' :: letter :: rest) :
    escape fuel c.next = .ok ([char.toNat], c.advance 2) := by
  have hletter : c.next.peek = some letter := by
    rw [Cursor.peek, Cursor.rest_next, hrest]
    rfl
  rw [escape, hletter]
  dsimp only
  rw [lookup_letterEscapes h]
  rfl

/-- An escape with four digits is read as its code. -/
theorem escape_code {fuel : Nat} {a b d e : Char} {n : Nat}
    (h : Json.hexNumber? [a, b, d, e] = some n)
    (hrest : c.rest = '\\' :: 'u' :: a :: b :: d :: e :: rest) :
    escape fuel c.next = .ok ([n], c.advance 6) := by
  have hletter : c.next.peek = some 'u' := by
    rw [Cursor.peek, Cursor.rest_next, hrest]
    rfl
  have hdigits : c.next.next.rest.take 4 = [a, b, d, e] := by
    rw [Cursor.rest_next, Cursor.rest_next, hrest]
    rfl
  have hcode : code 4 c.next.next = .ok (n, c.advance 6) := by
    rw [code, hdigits]
    simp [h, hexNumber?_lt h, Cursor.next_advance]
  rw [escape, hletter]
  change (code 4 c.next.next).map _ = _
  rw [hcode]
  rfl

/-- **Quoted texts.** What is written between quotes in one notation is read with the same codes in
the other. -/
theorem doubleCodes_inner (strokes : List Stroke) (hshared : ∀ d ∈ innerChars strokes, isShared d)
    {fuel : Nat} (hrest : c.rest = innerChars strokes ++ '"' :: rest)
    (hfuel : (innerChars strokes).length < fuel) :
    doubleCodes fuel c =
      .ok (strokes.map Stroke.meaning, c.advance ((innerChars strokes).length + 1)) := by
  induction fuel generalizing strokes c with
  | zero => exact absurd hfuel (Nat.not_lt_zero _)
  | succ fuel ih =>
    cases strokes with
    | nil =>
      have hpeek : c.peek = some '"' := by
        rw [Cursor.peek, hrest]
        rfl
      rw [doubleCodes, hpeek]
      rfl
    | cons stroke strokes =>
      rw [Json.innerChars_cons] at hshared hrest hfuel ⊢
      have hrestShared : ∀ d ∈ innerChars strokes, isShared d :=
        fun d hd => hshared d (List.mem_append_right _ hd)
      have hafter : (c.advance stroke.chars.length).rest = innerChars strokes ++ '"' :: rest :=
        Cursor.rest_advance_append (by rw [hrest, List.append_assoc])
      rw [List.length_append] at hfuel
      -- the other strokes are read behind the first one, except behind a space
      have hmore : 0 < stroke.chars.length → doubleCodes fuel (c.advance stroke.chars.length) =
          .ok (strokes.map Stroke.meaning,
            c.advance ((stroke.chars ++ innerChars strokes).length + 1)) := by
        intro hpos
        rw [ih strokes hrestShared hafter (by omega), Cursor.advance_advance, List.length_append,
          Nat.add_assoc]
      cases stroke with
      | itself char hquote hescape hcontrol =>
        by_cases hspace : char = ' '
        · subst hspace
          obtain ⟨n, tail, hchars, hcodes, hhead⟩ := exists_spaces strokes
          have htail : ∀ d ∈ innerChars tail, isShared d := fun d hd =>
            hrestShared d (hchars ▸ List.mem_append_right _ hd)
          have hspaces : c.rest =
              List.replicate (n + 1) ' ' ++ (innerChars tail ++ '"' :: rest) := by
            rw [hrest, hchars]
            simp [Stroke.chars, List.replicate_succ]
          have hlength : (innerChars strokes).length = n + (innerChars tail).length := by
            rw [hchars, List.length_append, List.length_replicate]
          have hlast := ih tail htail (c := c.advance (n + 1))
            (by rw [Cursor.rest_advance, hspaces, List.drop_left' List.length_replicate])
            (by simp only [Stroke.chars, List.length_singleton] at hfuel; omega)
          have hindex : n + 1 + ((innerChars tail).length + 1) =
              1 + (n + (innerChars tail).length) + 1 := by omega
          rw [doubleCodes_spaces hspaces (isGapOrBreak_head tail htail (hhead rest)) hlast,
            List.map_cons, hcodes, Cursor.advance_advance, List.length_append, hlength, hindex]
          rfl
        · exact doubleCodes_itself hquote hescape hcontrol (hshared char List.mem_cons_self) hspace
            hrest (hmore Nat.one_pos)
      | letter letter char h =>
        have hpeek : c.peek = some '\\' := by
          rw [Cursor.peek, hrest]
          rfl
        refine doubleCodes_of_ok [char.toNat] hpeek (by decide) ?_ (hmore (Nat.succ_pos _))
        rw [if_pos rfl]
        exact escape_letter h hrest
      | code a b d e n h =>
        have hpeek : c.peek = some '\\' := by
          rw [Cursor.peek, hrest]
          rfl
        refine doubleCodes_of_ok [n] hpeek (by decide) ?_ (hmore (Nat.succ_pos _))
        rw [if_pos rfl]
        exact escape_code h hrest

end Quoted

end SchemaPages.Yaml
