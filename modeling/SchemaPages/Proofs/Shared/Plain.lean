import SchemaPages.Proofs.Shared.Quoted
import SchemaPages.Yaml.Token.Plain

/-!
# Plain values in both notations

The words and numbers of JSON are plain scalars in YAML. A plain scalar may go on behind a gap, over
the end of a line, so its reader looks past the gap and gives up at the mark that follows: the value
is read with its own characters, and what is left of the gap then depends on where its lines end
(`exists_words`). So a cursor is followed up to a gap only (`Cursor.Before`).
-/

namespace SchemaPages.Yaml

/-! ### Gaps -/

/-- Whether a character may stand between the parts of a text. -/
def isSharedGap (c : Char) : Bool :=
  c = ' ' || c = '\n' || c = '\r'

theorem isSharedGap_of_isSpace {c : Char} (hspace : Json.isSpace c) (hshared : isShared c) :
    isSharedGap c := by
  have hkind : c = ' ' ∨ c = '\t' ∨ c = '\n' ∨ c = '\r' := by
    simpa [Json.isSpace, or_assoc] using hspace
  rcases hkind with rfl | rfl | rfl | rfl
  · rfl
  · exact absurd hshared (by decide)
  · rfl
  · rfl

/-- Whether a text goes on with a token: neither with a gap nor with a comment. -/
def Solid (rest : List Char) : Prop :=
  ∀ c ∈ rest.head?, isGapOrBreak c = false ∧ c ≠ '#'

namespace Cursor

variable {c after : Cursor} {rest : List Char}

/-- Whether a cursor stands in front of a text, with nothing but a gap in between. -/
def Before (c : Cursor) (rest : List Char) : Prop :=
  c.rest.length ≤ c.size ∧ ∃ gap, (∀ d ∈ gap, isSharedGap d) ∧ c.rest = gap ++ rest

theorem Before.of_rest (hsize : c.rest.length ≤ c.size) (h : c.rest = rest) : c.Before rest :=
  ⟨hsize, [], fun _ hd => absurd hd List.not_mem_nil, h⟩

/-- A gap at the start of a text may be left to be passed. -/
theorem Before.of_gap {gap : List Char} (hgap : ∀ d ∈ gap, isSharedGap d)
    (h : c.Before (gap ++ rest)) : c.Before rest := by
  obtain ⟨hsize, first, hfirst, hrest⟩ := h
  refine ⟨hsize, first ++ gap, ?_, by rw [hrest, List.append_assoc]⟩
  exact fun d hd => (List.mem_append.mp hd).elim (hfirst d) (hgap d)

theorem rest_skip (c : Cursor) (p : Char → Bool) : (c.skip p).rest = c.rest.dropWhile p := by
  have hparts : c.rest.takeWhile p ++ c.rest.dropWhile p = c.rest := List.takeWhile_append_dropWhile
  exact rest_advance_append hparts.symm

/-- Passing spaces leads to no other text, and to no space. -/
theorem Before.skip (h : c.Before rest) (hsolid : Solid rest) :
    (c.skip (· = ' ')).Before rest ∧ (c.skip (· = ' ')).peek ≠ some ' ' := by
  obtain ⟨hsize, gap, hgap, hrest⟩ := h
  have hdrop : ∃ left, (∀ d ∈ left, isSharedGap d) ∧
      (gap ++ rest).dropWhile (· = ' ') = left ++ rest ∧ (left ++ rest).head? ≠ some ' ' := by
    clear hrest
    induction gap with
    | nil =>
      have hhead : ∀ d ∈ rest.head?, d ≠ ' ' := by
        rintro _ hd rfl
        exact absurd (hsolid ' ' hd).1 (by decide)
      refine ⟨[], fun _ hd => absurd hd List.not_mem_nil, ?_, fun h => hhead ' ' h rfl⟩
      cases rest with
      | nil => rfl
      | cons d more => exact List.dropWhile_cons_of_neg (by simpa using hhead d rfl)
    | cons d gap ih =>
      obtain ⟨hd, hmore⟩ := List.forall_mem_cons.mp hgap
      by_cases hspace : d = ' '
      · rw [List.cons_append, List.dropWhile_cons_of_pos (by simpa using hspace)]
        exact ih hmore
      · exact ⟨d :: gap, hgap, List.dropWhile_cons_of_neg (by simpa using hspace),
          fun h => hspace (Option.some.inj h)⟩
  obtain ⟨left, hleft, heq, hhead⟩ := hdrop
  have hskipped : (c.skip (· = ' ')).rest = left ++ rest := by rw [rest_skip, hrest, heq]
  refine ⟨⟨?_, left, hleft, hskipped⟩, by rwa [peek, hskipped]⟩
  rw [rest_skip, Cursor.skip, size_advance]
  exact (List.length_dropWhile_le _ _).trans hsize

/-- In front of a token there is no comment. -/
theorem Before.peek_ne (h : c.Before rest) (hsolid : Solid rest) : c.peek ≠ some '#' := by
  obtain ⟨-, gap, hgap, hrest⟩ := h
  rw [peek, hrest]
  cases gap with
  | nil => exact fun heq => (hsolid '#' heq).2 rfl
  | cons d gap =>
    intro heq
    have hd : isSharedGap '#' := Option.some.inj heq ▸ hgap d List.mem_cons_self
    exact absurd hd (by decide)

/-- Passing a part of a gap leads nearer to the text behind it. -/
theorem Before.advance {left : List Char} {n : Nat} (hsize : c.rest.length ≤ c.size)
    (hleft : c.rest.drop n = left ++ rest) (hshared : ∀ d ∈ left, isSharedGap d)
    (hless : (left ++ rest).length < c.rest.length) :
    (c.advance n).Before rest ∧ (c.advance n).size = c.size ∧
      (c.advance n).rest.length < c.rest.length := by
  have hrest : (c.advance n).rest = left ++ rest := (rest_advance c n).trans hleft
  refine ⟨⟨?_, left, hshared, hrest⟩, size_advance c n, hrest.symm ▸ hless⟩
  rw [size_advance, hrest]
  exact (Nat.le_of_lt hless).trans hsize

/-- Behind the spaces of a gap there is its end, or the end of a line. -/
theorem Before.lineBreak? (h : c.Before rest) (hsolid : Solid rest) (hpeek : c.peek ≠ some ' ') :
    c.rest = rest ∧ c.lineBreak? = none ∨
      ∃ d after, c.lineBreak? = some (d, after) ∧ after.Before rest ∧ after.size = c.size ∧
        after.rest.length < c.rest.length := by
  obtain ⟨hsize, gap, hgap, hrest⟩ := h
  cases gap with
  | nil =>
    refine .inl ⟨hrest, lineBreak?_eq_none fun d hd => ?_⟩
    have hd : isGapOrBreak d = false := (hsolid d (by rwa [hrest] at hd)).1
    rw [isGapOrBreak, Bool.or_eq_false_iff] at hd
    exact hd.2
  | cons d gap =>
    obtain ⟨hd, hmore⟩ := List.forall_mem_cons.mp hgap
    have hspace : d ≠ ' ' := by
      rintro rfl
      exact hpeek (by rw [peek, hrest]; rfl)
    have hkind : d = '\n' ∨ d = '\r' := by
      simpa [isSharedGap, hspace] using hd
    have hlength : c.rest.length = (gap ++ rest).length + 1 := by
      rw [hrest]
      rfl
    right
    rcases hkind with rfl | rfl
    · refine ⟨'\n', c.next, by rw [Cursor.lineBreak?, hrest]; rfl, ?_⟩
      exact advance (n := 1) hsize (by rw [hrest]; rfl) hmore (by omega)
    · by_cases hfeed : gap.head? = some '\n'
      · obtain ⟨more, rfl⟩ := List.head?_eq_some_iff.mp hfeed
        refine ⟨'\n', c.advance 2, by rw [Cursor.lineBreak?, hrest]; rfl, ?_⟩
        exact advance (n := 2) hsize (by rw [hrest]; rfl)
          (fun d hd => hmore d (List.mem_cons_of_mem _ hd))
          (by rw [hlength]; exact Nat.lt_succ_of_lt (Nat.lt_succ_self _))
      · refine ⟨'\n', c.next, ?_, advance (n := 1) hsize (by rw [hrest]; rfl) hmore (by omega)⟩
        have hother : (gap ++ rest).head? ≠ some '\n' := by
          rw [List.head?_append]
          cases hgap : gap.head? with
          | some e => exact fun heq => hfeed (hgap.trans heq)
          | none => exact fun heq => absurd (hsolid '\n' heq).1 (by decide)
        rw [Cursor.lineBreak?, hrest, List.cons_append]
        split
        · next heq => exact absurd (congrArg List.head? (List.cons.inj heq).2) hother
        · next heq =>
          obtain ⟨rfl, -⟩ := List.cons.inj heq
          rfl
        · next heq => cases heq

end Cursor

/-! ### Plain values -/

namespace Plain

variable {c : Cursor} {rest lexeme : List Char}

/-- Whether a character may stand in a word or a number. -/
def isLexemeChar (c : Char) : Bool :=
  c.isAlphanum || c = '+' || c = '-' || c = '.'

theorem ne_of_isLexemeChar {c d : Char} (h : isLexemeChar c) (hd : isLexemeChar d = false) :
    c ≠ d := by
  rintro rfl
  exact absurd (hd.symm.trans h) Bool.false_ne_true

theorem isGapOrBreak_of_isLexemeChar {c : Char} (h : isLexemeChar c) : isGapOrBreak c = false := by
  have hne : ∀ d, isLexemeChar d = false → c ≠ d := fun d => ne_of_isLexemeChar h
  simp [isGapOrBreak, isBreak, hne ' ' rfl, hne '\t' rfl, hne '\n' rfl, hne '\r' rfl,
    hne '\x85' rfl, hne '\u2028' rfl, hne '\u2029' rfl]

/-- Nothing in a word or a number ends a plain scalar. -/
theorem endsBefore_of_isLexemeChar {c : Char} (h : isLexemeChar c) (rest : List Char) :
    endsBefore true c rest = false := by
  have hne : ∀ d, isLexemeChar d = false → c ≠ d := fun d => ne_of_isLexemeChar h
  simp [endsBefore, isGapOrBreak_of_isLexemeChar h, isFlowMark, hne ':' rfl, hne '?' rfl,
    hne ',' rfl, hne '[' rfl, hne ']' rfl, hne '{' rfl, hne '}' rfl]

theorem word_append (hlexeme : ∀ d ∈ lexeme, isLexemeChar d) (hrest : word true rest = []) :
    word true (lexeme ++ rest) = lexeme := by
  induction lexeme with
  | nil => exact hrest
  | cons d lexeme ih =>
    obtain ⟨hd, hmore⟩ := List.forall_mem_cons.mp hlexeme
    rw [List.cons_append, word, endsBefore_of_isLexemeChar hd, if_neg Bool.false_ne_true, ih hmore]

/-- Whether a text goes on with a mark of the bracket notation. -/
def Marked (rest : List Char) : Prop :=
  ∃ c more, rest = c :: more ∧ isFlowMark c

theorem Marked.solid (h : Marked rest) : Solid rest := by
  obtain ⟨c, more, rfl, hc⟩ := h
  rintro _ ⟨⟩
  have hmark : c = ',' ∨ c = '[' ∨ c = ']' ∨ c = '{' ∨ c = '}' := by
    simpa [isFlowMark, or_assoc] using hc
  rcases hmark with rfl | rfl | rfl | rfl | rfl <;> decide

theorem Marked.word_eq (h : Marked rest) : word true rest = [] := by
  obtain ⟨c, more, rfl, hc⟩ := h
  rw [word, if_pos (by simp [endsBefore, hc])]

/-- A gap ends a plain scalar as well. -/
theorem word_gap {gap : List Char} (hgap : ∀ d ∈ gap, isSharedGap d) (h : Marked rest) :
    word true (gap ++ rest) = [] := by
  cases gap with
  | nil => exact h.word_eq
  | cons d gap =>
    have hd : isGapOrBreak d = true := by
      have hkind : d = ' ' ∨ d = '\n' ∨ d = '\r' := by
        simpa [isSharedGap, or_assoc] using hgap d List.mem_cons_self
      rcases hkind with rfl | rfl | rfl <;> rfl
    rw [List.cons_append, word, if_pos (by simp [endsBefore, hd])]

/-- Passing the lines of a gap leads to no other text; if no document boundary is met, the gap is
passed to its end. -/
theorem exists_emptyLines (fuel : Nat) (h : c.Before rest) (hsolid : Solid rest) :
    ∃ breaks after, emptyLines fuel c = (breaks, after) ∧ after.Before rest ∧
      after.size = c.size ∧ (breaks ≠ none → after.rest = rest) := by
  induction fuel generalizing c with
  | zero => exact ⟨none, c, rfl, h, rfl, fun hnone => absurd rfl hnone⟩
  | succ fuel ih =>
    rw [emptyLines]
    split
    · exact ⟨none, c, rfl, h, rfl, fun hnone => absurd rfl hnone⟩
    · obtain ⟨hskip, hpeek⟩ := h.skip hsolid
      have hsize : (c.skip (· = ' ')).size = c.size := Cursor.size_advance _ _
      rcases hskip.lineBreak? hsolid hpeek with
        ⟨hrest, hnone⟩ | ⟨d, line, hbreak, hline, hlineSize, -⟩
      · simp only [hnone]
        exact ⟨_, _, rfl, hskip, hsize, fun _ => hrest⟩
      · obtain ⟨breaks, after, hlines, hafter, hafterSize, hend⟩ := ih hline
        simp only [hbreak, hlines]
        refine ⟨_, _, rfl, hafter, hafterSize.trans (hlineSize.trans hsize), fun hsome => hend ?_⟩
        exact fun hnone => hsome (by rw [hnone]; rfl)

/-- What separates the words of a plain scalar leads to no other text either. -/
theorem exists_gap (fuel : Nat) (h : c.Before rest) (hsolid : Solid rest) :
    ∃ space lineEnded after, gap fuel c = (space, lineEnded, after) ∧ after.Before rest ∧
      after.size = c.size ∧ (space ≠ none → after.rest = rest) := by
  obtain ⟨hskip, hpeek⟩ := h.skip hsolid
  have hsize : (c.skip (· = ' ')).size = c.size := Cursor.size_advance _ _
  have hspan : c.span (· = ' ') = (c.rest.takeWhile (· = ' '), c.skip (· = ' ')) := rfl
  rw [gap, hspan]
  rcases hskip.lineBreak? hsolid hpeek with ⟨hrest, hnone⟩ | ⟨d, line, hbreak, hline, hlineSize, -⟩
  · simp only [hnone]
    exact ⟨_, _, _, rfl, hskip, hsize, fun _ => hrest⟩
  · obtain ⟨breaks, after, hlines, hafter, hafterSize, hend⟩ :=
      exists_emptyLines fuel hline hsolid
    simp only [hbreak, hlines]
    refine ⟨_, _, _, rfl, hafter, hafterSize.trans (hlineSize.trans hsize), fun hsome => hend ?_⟩
    exact fun hnone => hsome (by rw [hnone]; rfl)

/-- **Plain values.** A word or a number in front of a mark is a plain scalar with its characters,
and nothing but a gap is left up to the mark. -/
theorem exists_words {gap : List Char} (hlexeme : ∀ d ∈ lexeme, isLexemeChar d)
    (hgap : ∀ d ∈ gap, isSharedGap d) (hmarked : Marked rest)
    (hrest : c.rest = lexeme ++ (gap ++ rest)) (hsize : c.rest.length ≤ c.size)
    (indent fuel : Nat) :
    ∃ lineEnded after, words true indent (fuel + 1) c = (lexeme, lineEnded, after) ∧
      after.Before rest ∧ after.size = c.size := by
  have hfirst : word true c.rest = lexeme := by
    rw [hrest]
    exact word_append hlexeme (word_gap hgap hmarked)
  have hbefore : (c.advance lexeme.length).Before rest := by
    refine ⟨?_, gap, hgap, Cursor.rest_advance_append hrest⟩
    rw [Cursor.rest_advance, Cursor.size_advance, List.length_drop]
    omega
  obtain ⟨space, lineEnded, after, hspace, hafter, hafterSize, hend⟩ :=
    exists_gap fuel hbefore hmarked.solid
  refine ⟨lineEnded, after, ?_, hafter, hafterSize.trans (Cursor.size_advance _ _)⟩
  rw [words, hfirst]
  simp only [hspace]
  cases space with
  | none => rfl
  | some space =>
    have hstop : word true after.rest = [] := by
      rw [hend (Option.some_ne_none _)]
      exact hmarked.word_eq
    rw [hstop]
    simp

end Plain

end SchemaPages.Yaml

namespace SchemaPages.Json

/-- Whether a word or a number has no more digits than are read: the digits of a float do not count.
-/
def Plain.Short : Plain → Prop
  | .word .. => True
  | .number n => n.isInteger → n.whole.length ≤ Number.digitLimit

/-- The characters of numbers. -/
theorem Numeral.isLexemeChar (n : Numeral) : ∀ c ∈ n.chars, Yaml.Plain.isLexemeChar c := by
  have hdigit : ∀ c : Char, c.isDigit → Yaml.Plain.isLexemeChar c := by
    intro c hc
    simp [Yaml.Plain.isLexemeChar, Char.isAlphanum, hc]
  simp only [Numeral.chars, Numeral.unsigned, List.forall_mem_append]
  refine ⟨?_, fun c hc => hdigit c (n.isDigit_whole c hc), ?_, ?_⟩
  · rw [signChars]
    cases n.negative with
    | false => exact fun _ hc => absurd hc List.not_mem_nil
    | true => exact List.forall_mem_singleton.mpr rfl
  · rw [Numeral.fractionChars]
    split
    · exact fun _ hc => absurd hc List.not_mem_nil
    · exact List.forall_mem_cons.mpr ⟨by decide, fun c hc => hdigit c (n.isDigit_fraction c hc)⟩
  · rw [Numeral.exponentChars]
    cases n.exponent with
    | none => exact fun _ hc => absurd hc List.not_mem_nil
    | some exponent =>
      refine List.forall_mem_cons.mpr ⟨?_, List.forall_mem_append.mpr ⟨fun c hc => ?_, ?_⟩⟩
      · rcases exponent.letter_eq with h | h <;> rw [h] <;> decide
      · rcases exponent.sign_eq c (Option.mem_toList.mp hc) with rfl | rfl <;> decide
      · exact fun c hc => hdigit c (exponent.isDigit_digits c hc)

/-- The characters of words and numbers. -/
theorem Plain.isLexemeChar (value : Plain) : ∀ c ∈ value.chars, Yaml.Plain.isLexemeChar c := by
  cases value with
  | word entry h =>
    have hwords : ∀ entry ∈ wordValues, entry.1.toList.all Yaml.Plain.isLexemeChar := by
      decide
    exact List.all_eq_true.mp (hwords entry h)
  | number n => exact n.isLexemeChar

/-- A minus sign in front of a word or a number is not alone. -/
theorem Plain.exists_of_minus {value : Plain} {tail : List Char} (h : value.chars = '-' :: tail) :
    ∃ c more, tail = c :: more ∧ Yaml.Plain.isLexemeChar c ∧ c ≠ '-' := by
  cases value with
  | word entry hentry =>
    have hwords : ∀ entry ∈ wordValues, entry.1.toList.head? = some '-' →
        entry.1.toList.tail.head? = some 'I' := by decide
    have htail : entry.1.toList.tail = tail := congrArg List.tail h
    obtain ⟨more, hmore⟩ := List.head?_eq_some_iff.mp
      (htail ▸ hwords entry hentry (congrArg List.head? h))
    exact ⟨'I', more, hmore, by decide, by decide⟩
  | number n =>
    obtain ⟨d, more, hcons⟩ := List.exists_cons_of_ne_nil n.whole_ne_nil
    have hd : d.isDigit := n.isDigit_whole d (hcons ▸ List.mem_cons_self)
    have hdash : d ≠ '-' := by
      rintro rfl
      exact absurd hd (by decide)
    have hlexeme : Yaml.Plain.isLexemeChar d := by
      simp [Yaml.Plain.isLexemeChar, Char.isAlphanum, hd]
    rw [Plain.chars, Numeral.chars, Numeral.unsigned, hcons, signChars] at h
    cases hsign : n.negative with
    | false =>
      rw [hsign] at h
      exact absurd (List.cons.inj h).1 hdash
    | true =>
      rw [hsign] at h
      exact ⟨d, _, (List.cons.inj h).2.symm, hlexeme, hdash⟩

end SchemaPages.Json
