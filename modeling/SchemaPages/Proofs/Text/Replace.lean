import SchemaPages.Text.Split

/-!
# Replacing several patterns

Two patterns can be replaced one after the other, or both in one pass over the text
(`replaceEachFrom`). The second of two passes also sees what the first one has put in. It finds an
occurrence there that one pass does not find only if the text that was put in completes one, so that
it lies inside the second pattern. If both patterns start with a mark that occurs nowhere else in
them and the second one ends with a mark too, and neither mark is in the text that is put in first,
then that text has to lie between the two marks of the second pattern (`prefix_or_infix_of_prefix`).
Where it does not occur there, two passes are as good as one (`replaceTwice_eq`).
-/

namespace SchemaPages.Text

/-- Replaces every occurrence of several patterns in one pass from left to right: where a pattern
begins, its replacement is put in and the pass goes on behind the pattern, so what has been put in
is not looked at again. The second argument counts the characters of the current occurrence that are
still to be skipped. -/
def replaceEachFrom (table : List (List Char × List Char)) : Nat → List Char → List Char
  | _, [] => []
  | skipped + 1, _ :: rest => replaceEachFrom table skipped rest
  | 0, c :: rest =>
    match table.find? fun entry => entry.1.isPrefixOf (c :: rest) with
    | some (pattern, replacement) =>
      replacement ++ replaceEachFrom table (pattern.length - 1) rest
    | none => c :: replaceEachFrom table 0 rest

/-- Replaces every occurrence of several texts in one pass from left to right. -/
def replaceEach (table : List (String × String)) (text : String) : String :=
  String.ofList (replaceEachFrom
    (table.map fun (pattern, replacement) => (pattern.toList, replacement.toList)) 0 text.toList)

variable {table : List (List Char × List Char)} {pattern replacement text rest : List Char}
  {c mark : Char}

/-! ### One pass -/

theorem replaceEachFrom_eq_drop (skipped : Nat) (text : List Char) :
    replaceEachFrom table skipped text = replaceEachFrom table 0 (text.drop skipped) := by
  induction text generalizing skipped with
  | nil => simp [replaceEachFrom]
  | cons c rest ih =>
    cases skipped with
    | zero => rfl
    | succ skipped => rw [replaceEachFrom, ih, List.drop_succ_cons]

/-- Where a pattern begins, its replacement is put in and the pass goes on behind it. -/
theorem replaceEachFrom_append (hpattern : pattern ≠ [])
    (hfind : table.find? (fun entry => entry.1.isPrefixOf (pattern ++ rest)) =
      some (pattern, replacement)) :
    replaceEachFrom table 0 (pattern ++ rest) = replacement ++ replaceEachFrom table 0 rest := by
  obtain ⟨c, tail, rfl⟩ := List.exists_cons_of_ne_nil hpattern
  rw [List.cons_append] at hfind ⊢
  rw [replaceEachFrom, hfind]
  simp only [List.length_cons, Nat.add_sub_cancel]
  rw [replaceEachFrom_eq_drop, List.drop_left]

/-- Where no pattern begins, the text is kept. -/
theorem replaceEachFrom_cons
    (h : ∀ entry ∈ table, ¬ entry.1 <+: c :: rest) :
    replaceEachFrom table 0 (c :: rest) = c :: replaceEachFrom table 0 rest := by
  have hfind : table.find? (fun entry => entry.1.isPrefixOf (c :: rest)) = none := by
    refine List.find?_eq_none.mpr fun entry hentry hprefix => ?_
    exact h entry hentry (List.isPrefixOf_iff_prefix.mp hprefix)
  rw [replaceEachFrom, hfind]

/-! ### One pattern -/

theorem replaceFrom_eq_replaceEachFrom (skipped : Nat) (text : List Char) :
    replaceFrom pattern replacement skipped text =
      replaceEachFrom [(pattern, replacement)] skipped text := by
  induction text generalizing skipped with
  | nil => cases skipped <;> rfl
  | cons c rest ih =>
    cases skipped with
    | succ skipped => rw [replaceFrom, replaceEachFrom, ih]
    | zero =>
      rw [replaceFrom, replaceEachFrom, List.find?_singleton]
      split
      · rw [ih]
      · rw [ih]

theorem replaceFrom_append_self (hpattern : pattern ≠ []) (rest : List Char) :
    replaceFrom pattern replacement 0 (pattern ++ rest) =
      replacement ++ replaceFrom pattern replacement 0 rest := by
  rw [replaceFrom_eq_replaceEachFrom, replaceFrom_eq_replaceEachFrom]
  exact replaceEachFrom_append hpattern (by simp)

theorem replaceFrom_cons (h : ¬ pattern <+: c :: rest) :
    replaceFrom pattern replacement 0 (c :: rest) =
      c :: replaceFrom pattern replacement 0 rest := by
  rw [replaceFrom_eq_replaceEachFrom, replaceFrom_eq_replaceEachFrom]
  exact replaceEachFrom_cons (by simpa using h)

/-- A text without the first character of the pattern is kept. -/
theorem replaceFrom_append_of_not_mem (h : mark ∉ text) (rest : List Char) :
    replaceFrom (mark :: pattern) replacement 0 (text ++ rest) =
      text ++ replaceFrom (mark :: pattern) replacement 0 rest := by
  induction text with
  | nil => rfl
  | cons c text ih =>
    obtain ⟨hc, htext⟩ := not_or.mp (mt List.mem_cons.mpr h)
    have hprefix : ¬ mark :: pattern <+: c :: (text ++ rest) := fun hprefix =>
      hc (List.cons_prefix_cons.mp hprefix).1
    rw [List.cons_append, replaceFrom_cons hprefix, ih htext, List.cons_append]

/-! ### Two patterns -/

/-- A text without a mark, in front of others, is a part of the word that stands before the mark. -/
theorem infix_of_prefix_append {word others : List Char} (hmark : mark ∉ replacement)
    (h : word ++ [mark] <+: replacement ++ others) : replacement <:+: word := by
  have hfront : replacement <+: replacement ++ others := List.prefix_append _ _
  rcases List.prefix_or_prefix_of_prefix h hfront with hshort | hlong
  · exact absurd (hshort.subset (List.mem_append_right word List.mem_cons_self)) hmark
  · rcases List.prefix_concat_iff.mp hlong with heq | hprefix
    · exact absurd (heq ▸ List.mem_append_right word List.mem_cons_self) hmark
    · exact hprefix.isInfix

/-- If a text starts with a word and a mark after replacing, it does so before, or what has been put
in is a part of the word, provided that it does not hold the mark. -/
theorem prefix_or_infix_of_prefix {word : List Char} (hpattern : pattern ≠ [])
    (hmark : mark ∉ replacement)
    (h : word ++ [mark] <+: replaceFrom pattern replacement 0 text) :
    word ++ [mark] <+: text ∨ replacement <:+: word := by
  induction text generalizing word with
  | nil => exact .inl h
  | cons c rest ih =>
    by_cases hprefix : pattern <+: c :: rest
    · obtain ⟨others, heq⟩ := hprefix
      rw [← heq, replaceFrom_append_self hpattern] at h
      exact .inr (infix_of_prefix_append hmark h)
    · rw [replaceFrom_cons hprefix] at h
      cases word with
      | nil =>
        have hfirst : mark = c := (List.cons_prefix_cons.mp h).1
        exact .inl (hfirst ▸ List.prefix_append [mark] rest)
      | cons first word =>
        obtain ⟨rfl, hword⟩ := List.cons_prefix_cons.mp h
        rcases ih hword with hbefore | hinside
        · exact .inl (List.cons_prefix_cons.mpr ⟨rfl, hbefore⟩)
        · exact .inr (hinside.trans (List.suffix_cons first word).isInfix)

/-- Replaces one pattern and then, in what comes of it, another one. -/
def replaceTwice (first inserted second others text : List Char) : List Char :=
  replaceFrom second others 0 (replaceFrom first inserted 0 text)

variable {opening closing : Char} {first word inserted others : List Char}

/-- The first pattern is replaced, and the second pass keeps what has been put in. -/
theorem replaceTwice_first (hopening : opening ∉ inserted) (rest : List Char) :
    replaceTwice (opening :: first) inserted (opening :: word) others
        ((opening :: first) ++ rest) =
      inserted ++ replaceTwice (opening :: first) inserted (opening :: word) others rest := by
  rw [replaceTwice, replaceFrom_append_self (List.cons_ne_nil _ _),
    replaceFrom_append_of_not_mem hopening, replaceTwice]

/-- The first pass finds nothing inside the second pattern, so the second pass replaces it. -/
theorem replaceTwice_second (hword : opening ∉ word)
    (hfirst : ¬ opening :: first <+: (opening :: word) ++ rest) :
    replaceTwice (opening :: first) inserted (opening :: word) others ((opening :: word) ++ rest) =
      others ++ replaceTwice (opening :: first) inserted (opening :: word) others rest := by
  have hkept : replaceFrom (opening :: first) inserted 0 ((opening :: word) ++ rest) =
      (opening :: word) ++ replaceFrom (opening :: first) inserted 0 rest := by
    rw [List.cons_append] at hfirst ⊢
    rw [replaceFrom_cons hfirst, replaceFrom_append_of_not_mem hword, List.cons_append]
  rw [replaceTwice, hkept, replaceFrom_append_self (List.cons_ne_nil _ _), replaceTwice]

/-- Where neither pattern begins, the first pass does not make the second pattern begin. -/
theorem replaceTwice_cons (hclosing : closing ∉ inserted) (hpart : ¬ inserted <:+: word)
    (hfirst : ¬ opening :: first <+: c :: rest)
    (hsecond : ¬ opening :: (word ++ [closing]) <+: c :: rest) :
    replaceTwice (opening :: first) inserted (opening :: (word ++ [closing])) others (c :: rest) =
      c :: replaceTwice (opening :: first) inserted (opening :: (word ++ [closing])) others
        rest := by
  have hmore : ¬ opening :: (word ++ [closing]) <+:
      c :: replaceFrom (opening :: first) inserted 0 rest := by
    intro hprefix
    obtain ⟨rfl, hword⟩ := List.cons_prefix_cons.mp hprefix
    rcases prefix_or_infix_of_prefix (List.cons_ne_nil _ _) hclosing hword with
      hbefore | hinside
    · exact hsecond (List.cons_prefix_cons.mpr ⟨rfl, hbefore⟩)
    · exact hpart hinside
  rw [replaceTwice, replaceFrom_cons hfirst, replaceFrom_cons hmore, replaceTwice]

/-- **Two passes are one.** Replace a pattern that starts with an opening mark, and then a word
between an opening and a closing mark. If the second pattern holds no other opening mark, and what
the first pass puts in holds neither mark and does not occur in the word, both can be replaced in
one pass. The induction is on the length of the text, as a pass goes on behind an occurrence. -/
theorem replaceTwice_eq (hmarks : opening ≠ closing) (hword : opening ∉ word)
    (hopening : opening ∉ inserted) (hclosing : closing ∉ inserted) (hpart : ¬ inserted <:+: word)
    (text : List Char) :
    replaceTwice (opening :: first) inserted (opening :: (word ++ [closing])) others text =
      replaceEachFrom [(opening :: first, inserted), (opening :: (word ++ [closing]), others)] 0
        text := by
  induction hlength : text.length using Nat.strongRecOn generalizing text with
  | ind length ih =>
    subst hlength
    have hshorter : ∀ {front rest : List Char}, front ≠ [] → text = front ++ rest →
        rest.length < text.length := by
      rintro front rest hfront rfl
      rw [List.length_append]
      exact Nat.lt_add_of_pos_left (List.length_pos_iff.mpr hfront)
    by_cases hfirst : opening :: first <+: text
    · obtain ⟨rest, rfl⟩ := hfirst
      have hne : opening :: first ≠ [] := List.cons_ne_nil _ _
      rw [replaceTwice_first hopening, ih _ (hshorter hne rfl) rest rfl]
      exact (replaceEachFrom_append hne (by simp)).symm
    by_cases hsecond : opening :: (word ++ [closing]) <+: text
    · obtain ⟨rest, rfl⟩ := hsecond
      have hne : opening :: (word ++ [closing]) ≠ [] := List.cons_ne_nil _ _
      have hmarked : opening ∉ word ++ [closing] := by simp [hword, hmarks]
      rw [replaceTwice_second hmarked hfirst, ih _ (hshorter hne rfl) rest rfl]
      refine (replaceEachFrom_append hne ?_).symm
      rw [List.find?_cons_of_neg (by simpa using hfirst)]
      simp
    cases text with
    | nil => rfl
    | cons c rest =>
      have hne : [c] ≠ [] := List.cons_ne_nil c []
      rw [replaceTwice_cons hclosing hpart hfirst hsecond, ih _ (hshorter hne rfl) rest rfl]
      exact (replaceEachFrom_cons (by simp [hfirst, hsecond])).symm

end SchemaPages.Text
