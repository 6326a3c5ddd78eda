import Mathlib.Algebra.GroupWithZero.Nat
import SchemaPages.Pairs
import SchemaPages.Text.LetterCase
import SchemaPages.Text.Split

/-!
# The lines of a text

A text stands on one line if there is no line feed in it. Joining such texts puts them on one line
(`oneLine_append`, `oneLine_intercalate`), and neither dropping the line feeds of a text nor mapping
it to lower case leads to a line feed (`oneLine_without`, `oneLine_lower`). Texts that stand on one
line each are the lines of the text that they make up (`lines_unlines`).
-/

namespace SchemaPages.Text

/-- Whether a text stands on one line. -/
def OneLine (text : String) : Prop :=
  '\n' ∉ text.toList

instance (text : String) : Decidable (OneLine text) :=
  inferInstanceAs (Decidable ('\n' ∉ text.toList))

variable {text front back separator : String} {texts : List String} {c : Char}

theorem oneLine_empty : OneLine "" :=
  List.not_mem_nil

@[simp]
theorem oneLine_append : OneLine (front ++ back) ↔ OneLine front ∧ OneLine back := by
  simp [OneLine]

theorem OneLine.append (h : OneLine front) (h' : OneLine back) : OneLine (front ++ back) :=
  oneLine_append.mpr ⟨h, h'⟩

theorem OneLine.between (h : OneLine text) (hfront : OneLine front) (hback : OneLine back) :
    OneLine (front ++ text ++ back) :=
  (hfront.append h).append hback

/-- Texts with a separator between them stand on one line exactly if each of them does. -/
theorem oneLine_intercalate (hseparator : OneLine separator) :
    OneLine (separator.intercalate texts) ↔ ∀ text ∈ texts, OneLine text := by
  induction texts with
  | nil => exact iff_of_true List.not_mem_nil fun _ h => absurd h List.not_mem_nil
  | cons first rest ih =>
    rcases rest with _ | ⟨second, others⟩
    · rw [String.intercalate_singleton, List.forall_mem_singleton]
    · rw [String.intercalate_cons_cons, oneLine_append, oneLine_append, ih, and_iff_left hseparator]
      exact List.forall_mem_cons.symm

theorem oneLine_getD {text : Option String} (h : ∀ name ∈ text, OneLine name) :
    OneLine (text.getD "") := by
  cases text with
  | none => exact oneLine_empty
  | some name => exact h name rfl

theorem oneLine_without (text : String) : OneLine (without '\n' text) := by
  simp [OneLine, without]

/-! ### Lower case -/

theorem eq_ten_of_ofNat {code : Nat} (h : Char.ofNat code = '\n') : code = 10 := by
  by_cases hvalid : code.isValidChar
  · have hchar : Char.ofNat code = Char.ofNatAux code hvalid := dif_pos hvalid
    exact congrArg Char.toNat (hchar.symm.trans h)
  · have hzero : Char.ofNat code = Char.ofNat 0 := dif_neg hvalid
    exact absurd (hzero.symm.trans h) (by decide)

/-- No run of letters is moved to the line feed. -/
theorem image?_lowercaseRuns_ne : CaseRun.image? lowercaseRuns c ≠ some '\n' := by
  have hruns : ∀ run ∈ lowercaseRuns, 10 < run.first + run.shift := by decide +kernel
  intro h
  obtain ⟨run, hrun, himage⟩ := Option.map_eq_some_iff.mp h
  have hcovers := List.find?_some hrun
  have hshift := hruns run (List.mem_of_find?_eq_some hrun)
  have hcode := eq_ten_of_ofNat himage
  simp only [CaseRun.covers, Bool.and_eq_true, decide_eq_true_eq] at hcovers
  omega

theorem newline_not_mem_image? {letters : List Char}
    (h : image? lowercaseTexts c = some letters) : '\n' ∉ letters := by
  have htexts : ∀ entry ∈ lowercaseTexts, 10 ∉ entry.2 := by decide
  obtain ⟨codes, hlookup, rfl⟩ := Option.map_eq_some_iff.mp h
  intro hmem
  obtain ⟨code, hcode, himage⟩ := List.mem_map.mp hmem
  exact htexts _ (Pairs.mem_of_lookup hlookup) (eq_ten_of_ofNat himage ▸ hcode)

theorem toLower_ne (hc : c ≠ '\n') : c.toLower ≠ '\n' := by
  intro h
  by_cases hletter : c.val ≥ 'A'.val ∧ c.val ≤ 'Z'.val
  · have hlower : c.toLower.val = c.val + ('a'.val - 'A'.val) :=
      congrArg Char.val (dif_pos hletter)
    have hvalue : (c.val + ('a'.val - 'A'.val)).toNat = 10 := by
      rw [← hlower, h]
      rfl
    obtain ⟨hfirst, hlast⟩ := hletter
    have hfirst : 65 ≤ c.val.toNat := UInt32.le_iff_toNat_le.mp hfirst
    have hlast : c.val.toNat ≤ 90 := UInt32.le_iff_toNat_le.mp hlast
    have hshift : ('a'.val - 'A'.val).toNat = 32 := rfl
    rw [UInt32.toNat_add, hshift] at hvalue
    omega
  · have hsame : c.toLower = c := dif_neg hletter
    exact hc (hsame.symm.trans h)

/-- Only the line feed has the line feed in its lower case. -/
theorem newline_not_mem_lowerChar (hc : c ≠ '\n') : '\n' ∉ lowerChar c := by
  rw [lowerChar]
  split
  · rw [List.mem_singleton]
    exact (toLower_ne hc).symm
  · rcases htext : image? lowercaseTexts c with _ | letters
    · rw [Option.getD_none, List.mem_singleton]
      rcases hrun : CaseRun.image? lowercaseRuns c with _ | image
      · exact Ne.symm hc
      · rintro rfl
        exact image?_lowercaseRuns_ne hrun
    · exact newline_not_mem_image? htext

theorem newline_not_mem_lowerFrom {letters : List Char} (h : '\n' ∉ letters)
    (before : List Char) : '\n' ∉ lowerFrom before letters := by
  induction letters generalizing before with
  | nil => exact List.not_mem_nil
  | cons c rest ih =>
    obtain ⟨hc, hrest⟩ := not_or.mp (mt List.mem_cons.mpr h)
    rw [lowerFrom, List.mem_append, not_or]
    refine ⟨?_, ih hrest _⟩
    rw [lowerBetween]
    split
    · rw [lowerSigma]
      split <;> decide
    · exact newline_not_mem_lowerChar (Ne.symm hc)

theorem oneLine_lower (h : OneLine text) : OneLine (lower text) := by
  rw [OneLine, lower, String.toList_ofList]
  exact newline_not_mem_lowerFrom h []

/-! ### Lines -/

/-- The lines of a text. -/
def lines (text : String) : List String :=
  (splitAtChar '\n' text.toList).map String.ofList

/-- The text that has these lines, each of them with its end. -/
def unlines (texts : List String) : String :=
  String.join (texts.map (· ++ "\n"))

theorem unlines_append (texts others : List String) :
    unlines (texts ++ others) = unlines texts ++ unlines others := by
  rw [unlines, List.map_append, String.join_append]
  rfl

theorem unlines_cons (text : String) (texts : List String) :
    unlines (text :: texts) = text ++ "\n" ++ unlines texts := by
  rw [unlines, List.map_cons, String.join_cons]
  rfl

theorem splitAtChar_append_cons {mark : Char} {before : List Char} (h : mark ∉ before)
    (after : List Char) :
    splitAtChar mark (before ++ mark :: after) = before :: splitAtChar mark after := by
  rw [splitAtChar_append, splitAtChar_of_not_mem h, List.singleton_append]

theorem lines_append (h : OneLine text) (back : String) :
    lines (text ++ "\n" ++ back) = text :: lines back := by
  have hsplit := splitAtChar_append_cons h back.toList
  have hlist : (text ++ "\n" ++ back).toList = text.toList ++ '\n' :: back.toList := by simp
  rw [lines, hlist, hsplit, List.map_cons, String.ofList_toList]
  rfl

/-- What makes up a text is found as its lines; behind the last line end the text is empty. -/
theorem lines_unlines (h : ∀ text ∈ texts, OneLine text) :
    lines (unlines texts) = texts ++ [""] := by
  induction texts with
  | nil => rfl
  | cons text rest ih =>
    obtain ⟨htext, hrest⟩ := List.forall_mem_cons.mp h
    rw [unlines_cons, lines_append htext, ih hrest, List.cons_append]

/-- The text of some lines has a line feed for each of them, and those that are in them. -/
theorem count_unlines (texts : List String) :
    (unlines texts).toList.count '\n' =
      texts.length + (texts.map fun text => text.toList.count '\n').sum := by
  induction texts with
  | nil => rfl
  | cons text rest ih =>
    have hend : "\n".toList.count '\n' = 1 := by decide
    rw [unlines_cons, String.toList_append, List.count_append, ih, String.toList_append,
      List.count_append, hend, List.map_cons, List.sum_cons, List.length_cons]
    omega

/-- What makes up the same text as some lines, and is as many, are these lines. -/
theorem eq_of_unlines_eq {others : List String} (h : unlines texts = unlines others)
    (hlength : texts.length = others.length) (hothers : ∀ other ∈ others, OneLine other) :
    texts = others := by
  have hnone : ∀ other ∈ others, other.toList.count '\n' = 0 := fun other hother =>
    List.count_eq_zero.mpr (hothers other hother)
  have hsum : (others.map fun other => other.toList.count '\n').sum = 0 :=
    List.sum_eq_zero_iff_forall_eq_nat.mpr (List.forall_mem_map.mpr hnone)
  have hcount := congrArg (fun text => text.toList.count '\n') h
  simp only [count_unlines, hsum, hlength] at hcount
  have htexts : ∀ text ∈ texts, OneLine text := by
    intro text htext
    have hzero := List.sum_eq_zero_iff_forall_eq_nat.mp (Nat.add_left_cancel hcount) _
      (List.mem_map_of_mem htext)
    exact List.count_eq_zero.mp hzero
  have hlines := congrArg lines h
  rw [lines_unlines htexts, lines_unlines hothers] at hlines
  exact List.append_cancel_right hlines

theorem not_mem_of_mem_splitAtChar {mark : Char} {letters piece : List Char}
    (h : piece ∈ splitAtChar mark letters) : mark ∉ piece := by
  induction letters generalizing piece with
  | nil =>
    rw [splitAtChar, List.mem_singleton] at h
    exact h ▸ List.not_mem_nil
  | cons c rest ih =>
    rw [splitAtChar] at h
    split at h
    · rcases List.mem_cons.mp h with rfl | hrest
      · exact List.not_mem_nil
      · exact ih hrest
    · next hc =>
      split at h
      · rw [List.mem_singleton] at h
        simpa [h] using Ne.symm hc
      · next first others hsplit =>
        rcases List.mem_cons.mp h with rfl | hrest
        · have hfirst : mark ∉ first := ih (hsplit ▸ List.mem_cons_self)
          simpa [Ne.symm hc] using hfirst
        · exact ih (hsplit ▸ List.mem_cons_of_mem _ hrest)

theorem oneLine_of_mem_lines {line : String} (h : line ∈ lines text) : OneLine line := by
  obtain ⟨piece, hpiece, rfl⟩ := List.mem_map.mp h
  rw [OneLine, String.toList_ofList]
  exact not_mem_of_mem_splitAtChar hpiece

theorem unlines_map_ofList {pieces : List (List Char)} (h : pieces ≠ []) :
    unlines (pieces.map String.ofList) = String.ofList (joinWith '\n' pieces) ++ "\n" := by
  induction pieces with
  | nil => exact absurd rfl h
  | cons piece rest ih =>
    rw [List.map_cons, unlines_cons]
    rcases rest with _ | ⟨second, others⟩
    · rw [joinWith]
      exact String.append_empty
    · have hjoin : joinWith '\n' (piece :: second :: others) =
          piece ++ '\n' :: joinWith '\n' (second :: others) := rfl
      rw [ih (List.cons_ne_nil _ _), hjoin]
      simp [← String.toList_inj]

/-- The lines of a text make it up, with an end for the last one. -/
theorem unlines_lines (text : String) : unlines (lines text) = text ++ "\n" := by
  rw [lines, unlines_map_ofList (splitAtChar_ne_nil '\n' text.toList), joinWith_splitAtChar,
    String.ofList_toList]

theorem lines_ne_nil (text : String) : lines text ≠ [] :=
  mt List.map_eq_nil_iff.mp (splitAtChar_ne_nil '\n' text.toList)

end SchemaPages.Text
