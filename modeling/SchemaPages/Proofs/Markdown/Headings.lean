import SchemaPages.Markdown.Basic
import SchemaPages.Proofs.Markdown.Shape

/-!
# Lines that are headings

A line is a heading if it starts with number signs and a space. Every block of a document is made of
whole lines, so blocks that are put one after the other have the headings of each
(`Outlined.append`). A heading has itself, if its text stands on one line. Labels, lists and tables
have none, as their lines start with a mark of their own and free text in a cell stands on one line.
Of a block quote only the first line has a mark in front of it: all others are the lines of the text
as they are (`lines_blockQuote`), and those among them that are headings are headings of the
document.
-/

namespace SchemaPages.Markdown

open Text (OneLine lines unlines)

variable {text other line : String} {found others : List String}

/-- Whether a line is a heading. -/
def isHeading (line : String) : Bool :=
  line.toList.head? = some '#' && (line.toList.dropWhile (· = '#')).head? = some ' '

/-- The lines of a text that are headings. -/
def headings (text : String) : List String :=
  (lines text).filter isHeading

example : headings "## a\n#b\n> # c\n # d\n### \ne" = ["## a", "### "] := by decide

/-- The headings behind the first line of a text. -/
def strayHeadings (text : String) : List String :=
  (lines text).tail.filter isHeading

theorem isHeading_of_head? (h : line.toList.head? ≠ some '#') : isHeading line = false := by
  rw [isHeading, decide_eq_false h, Bool.false_and]

/-- The line of a heading. -/
def headingLine (level : Nat) (text : String) : String :=
  String.ofList (List.replicate level '#') ++ " " ++ text

theorem isHeading_headingLine {level : Nat} (hlevel : 0 < level) (text : String) :
    isHeading (headingLine level text) = true := by
  obtain ⟨fewer, rfl⟩ := Nat.exists_eq_add_one_of_ne_zero (Nat.ne_of_gt hlevel)
  have hlist : (headingLine (fewer + 1) text).toList =
      List.replicate (fewer + 1) '#' ++ ' ' :: text.toList := by simp [headingLine]
  have hrest : (List.replicate (fewer + 1) '#' ++ ' ' :: text.toList).dropWhile (· = '#') =
      ' ' :: text.toList := by
    rw [List.dropWhile_append_of_pos (by simp)]
    rfl
  rw [isHeading, hlist, hrest, List.replicate_succ]
  rfl

/-! ### Texts made of whole lines -/

/-- Whether a text is made of whole lines, of which the given ones are headings. -/
def Outlined (text : String) (found : List String) : Prop :=
  ∃ texts, (∀ line ∈ texts, OneLine line) ∧ text = unlines texts ∧ texts.filter isHeading = found

theorem Outlined.headings_eq (h : Outlined text found) : headings text = found := by
  obtain ⟨texts, hlines, rfl, rfl⟩ := h
  rw [headings, Text.lines_unlines hlines, List.filter_append]
  exact List.append_nil _

theorem outlined_empty : Outlined "" [] :=
  ⟨[], fun _ h => absurd h List.not_mem_nil, rfl, rfl⟩

/-- Texts one after the other have the headings of each. -/
theorem Outlined.append (h : Outlined text found) (h' : Outlined other others) :
    Outlined (text ++ other) (found ++ others) := by
  obtain ⟨texts, hlines, rfl, rfl⟩ := h
  obtain ⟨texts', hlines', rfl, rfl⟩ := h'
  refine ⟨texts ++ texts', fun line hline => ?_, (Text.unlines_append texts texts').symm,
    List.filter_append _ _⟩
  exact (List.mem_append.mp hline).elim (hlines line) (hlines' line)

theorem outlined_join {α : Type} {items : List α} {textOf : α → String} {foundIn : α → List String}
    (h : ∀ item ∈ items, Outlined (textOf item) (foundIn item)) :
    Outlined (String.join (items.map textOf)) (items.flatMap foundIn) := by
  induction items with
  | nil => exact outlined_empty
  | cons item rest ih =>
    obtain ⟨hitem, hrest⟩ := List.forall_mem_cons.mp h
    rw [List.map_cons, String.join_cons, List.flatMap_cons]
    exact hitem.append (ih hrest)

theorem outlined_join_nil {α : Type} {items : List α} {textOf : α → String}
    (h : ∀ item ∈ items, Outlined (textOf item) []) :
    Outlined (String.join (items.map textOf)) [] := by
  have hnone : (items.flatMap fun _ => ([] : List String)) = [] :=
    List.flatMap_eq_nil_iff.mpr fun _ _ => rfl
  exact hnone ▸ outlined_join h

/-- A line that does not start with a number sign has no headings. -/
theorem outlined_line (hline : OneLine line) (hhead : line.toList.head? ≠ some '#') :
    Outlined (line ++ "\n") [] := by
  refine ⟨[line], by simpa using hline, ?_, ?_⟩
  · rw [Text.unlines_cons]
    exact String.append_empty.symm
  · rw [List.filter_cons, isHeading_of_head? hhead]
    rfl

theorem outlined_lineEnd : Outlined "\n" [] :=
  @outlined_line "" (by decide) (by decide)

/-- A line in front of an empty line. -/
theorem outlined_paragraph (hline : OneLine line) (hhead : line.toList.head? ≠ some '#') :
    Outlined (line ++ "\n\n") [] := by
  have hends : line ++ "\n\n" = line ++ "\n" ++ "\n" := by
    rw [String.append_assoc]
    rfl
  rw [hends]
  exact (outlined_line hline hhead).append outlined_lineEnd

/-! ### Texts within a line -/

/-- Free text in a cell stands on one line. -/
theorem oneLine_cell (text : Option String) : OneLine (cell text) := by
  cases text with
  | none => decide
  | some text => exact Text.oneLine_without _

theorem oneLine_inlineCode (h : OneLine text) : OneLine (inlineCode text) := by
  rw [inlineCode]
  split
  · decide
  · exact h.between (by decide) (by decide)

theorem oneLine_link {destination : String} (h : OneLine text)
    (hdestination : OneLine destination) : OneLine (link text destination) := by
  rw [link]
  split
  · decide
  · exact hdestination.between (h.between (by decide) (by decide)) (by decide)

theorem oneLine_anchored (h : OneLine text) : OneLine (anchored text) :=
  ((Text.oneLine_lower h).between (by decide) (by decide)).append h

/-! ### Blocks of a document -/

theorem outlined_heading {level : Nat} (hlevel : 0 < level) (h : OneLine text) :
    Outlined (heading level text) [headingLine level text] := by
  refine ⟨[headingLine level text, ""], ?_, ?_, ?_⟩
  · have hmark : OneLine (String.ofList (List.replicate level '#')) := by simp [OneLine]
    have hline : OneLine (headingLine level text) := (hmark.append (by decide)).append h
    simpa using ⟨hline, by decide⟩
  · rw [Text.unlines_cons, String.append_assoc]
    rfl
  · rw [List.filter_cons, if_pos (isHeading_headingLine hlevel text)]
    rfl

/-- The first line of a block quote has its mark, and the others are those of the text. -/
theorem blockQuote_eq_unlines {first : String} {rest : List String}
    (h : lines text = first :: rest) :
    blockQuote text = unlines (("> " ++ first) :: rest ++ [""]) := by
  have htext := Text.unlines_lines text
  rw [h, Text.unlines_cons] at htext
  have hends : blockQuote text = "> " ++ (text ++ "\n") ++ "\n" := by
    rw [blockQuote, String.append_assoc, String.append_assoc, String.append_assoc]
    rfl
  have hlast : unlines [""] = "\n" := rfl
  rw [hends, ← htext, Text.unlines_append, Text.unlines_cons, hlast]
  simp only [String.append_assoc]

theorem outlined_blockQuote (text : String) : Outlined (blockQuote text) (strayHeadings text) := by
  obtain ⟨first, rest, hlines⟩ := List.exists_cons_of_ne_nil (Text.lines_ne_nil text)
  have hall : ∀ line ∈ first :: rest, OneLine line :=
    fun line hline => Text.oneLine_of_mem_lines (hlines ▸ hline)
  obtain ⟨hfirst, hrest⟩ := List.forall_mem_cons.mp hall
  refine ⟨_, ?_, blockQuote_eq_unlines hlines, ?_⟩
  · intro line hline
    rcases List.mem_append.mp hline with hquoted | hlast
    · rcases List.mem_cons.mp hquoted with rfl | hother
      · exact OneLine.append (by decide) hfirst
      · exact hrest line hother
    · obtain rfl := List.mem_singleton.mp hlast
      decide
  · have hquoted : isHeading ("> " ++ first) = false := isHeading_of_head? (by simp)
    rw [strayHeadings, hlines, List.cons_append, List.filter_cons, hquoted, List.filter_append]
    exact List.append_nil _

theorem outlined_notice (h : OneLine text) : Outlined (notice text) [] := by
  have hends : notice text = "_" ++ text ++ "_" ++ "\n" := by
    rw [notice, String.append_assoc, String.append_assoc, String.append_assoc]
    rfl
  rw [hends]
  exact outlined_line (h.between (by decide) (by decide)) (by simp)

theorem outlined_label {name value : String} (hname : OneLine name) (hvalue : OneLine value) :
    Outlined (label name value) [] :=
  outlined_paragraph ((hname.between (by decide) (by decide)).append hvalue) (by simp)

theorem outlined_bullets {items : List String} (h : ∀ item ∈ items, OneLine item) :
    Outlined (bullets items) [] := by
  have hitems : Outlined (String.join (items.map fun item => "* " ++ item ++ "\n")) [] :=
    outlined_join_nil fun item hitem =>
      outlined_line (OneLine.append (by decide) (h item hitem)) (by simp)
  exact hitems.append outlined_lineEnd

theorem outlined_tableRow {cells : List String} (h : ∀ cell ∈ cells, OneLine cell) :
    Outlined (tableRow cells) [] := by
  rw [tableRow_eq]
  exact outlined_line (oneLine_rowLine.mpr h) (by simp [rowLine])

/-- A table has no headings if each of its cells stands on one line. -/
theorem outlined_table {headers : List String} {rows : List (List String)}
    (hheaders : ∀ cell ∈ headers, OneLine cell) (hrows : ∀ row ∈ rows, ∀ cell ∈ row, OneLine cell) :
    Outlined (table headers rows) [] := by
  have hrule : Outlined (tableRule headers.length) [] := by
    refine outlined_tableRow fun cell hcell => ?_
    rw [List.eq_of_mem_replicate hcell]
    decide
  have hentries : Outlined (String.join (rows.map tableRow)) [] :=
    outlined_join_nil fun row hrow => outlined_tableRow (hrows row hrow)
  exact (((outlined_tableRow hheaders).append hrule).append hentries).append outlined_lineEnd

end SchemaPages.Markdown
