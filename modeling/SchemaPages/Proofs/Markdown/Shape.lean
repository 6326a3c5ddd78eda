import SchemaPages.Markdown.Table
import SchemaPages.Proofs.Text.Lines

/-!
# The shape of a table

A reader of Markdown takes a table apart at its line feeds and at its bars, except for bars behind a
backslash. So a table has the shape that it is meant to have if each row stands on one line and has
one open bar more than it has cells. A row has that bar around each of its cells, and those inside
of them (`openBars_rowLine`); so the shape depends on the cells alone, and each of them can break it
(`inShape_table_iff`).
-/

namespace SchemaPages.Markdown

open Text (OneLine unlines)

variable {cells headers : List String} {rows : List (List String)}

/-! ### Open bars -/

/-- The number of bars in a text that no backslash stands for. The flag tells whether a backslash
stands in front of the text. -/
def barsFrom : Bool → List Char → Nat
  | _, [] => 0
  | true, _ :: rest => barsFrom false rest
  | false, c :: rest =>
    if c = '\\' then barsFrom true rest
    else if c = '|' then barsFrom false rest + 1
    else barsFrom false rest

/-- The number of bars in a text that are not escaped: a backslash escapes the character behind
it. -/
def openBars (text : String) : Nat :=
  barsFrom false text.toList

example : openBars "| a | `b\\|c` \\\\| d \\" = 3 := by decide

/-- No bar is escaped across a space. -/
theorem barsFrom_append_space (escaped : Bool) (front back : List Char) :
    barsFrom escaped (front ++ ' ' :: back) = barsFrom escaped front + barsFrom false back := by
  induction front generalizing escaped with
  | nil => cases escaped <;> simp [barsFrom]
  | cons c rest ih =>
    rw [List.cons_append]
    cases escaped with
    | true => exact ih false
    | false =>
      rw [barsFrom, barsFrom, ih, ih]
      split
      · rfl
      · split
        · exact Nat.add_right_comm _ _ _
        · rfl

theorem openBars_append_space (front back : String) :
    openBars (front ++ " " ++ back) = openBars front + openBars back := by
  have hlist : (front ++ " " ++ back).toList = front.toList ++ ' ' :: back.toList := by simp
  rw [openBars, hlist, barsFrom_append_space, openBars, openBars]

/-! ### Rows -/

/-- The line of a row. -/
def rowLine (cells : List String) : String :=
  "| " ++ " | ".intercalate cells ++ " |"

theorem tableRow_eq (cells : List String) : tableRow cells = rowLine cells ++ "\n" := by
  rw [tableRow, rowLine, String.append_assoc, String.append_assoc, String.append_assoc]
  rfl

/-- A row has a bar on either side of each cell, and the bars that are in its cells. -/
theorem openBars_rowLine (h : cells ≠ []) :
    openBars (rowLine cells) = cells.length + 1 + (cells.map openBars).sum := by
  have hbar : ∀ text, openBars ("| " ++ text) = openBars text + 1 := by
    intro text
    have hmark : openBars ("|" ++ " " ++ text) = 1 + openBars text := openBars_append_space "|" text
    rw [Nat.add_comm, ← hmark]
    rfl
  have hlast : ∀ text, openBars (text ++ " |") = openBars text + 1 := by
    intro text
    have hmark : openBars (text ++ " " ++ "|") = openBars text + 1 := openBars_append_space text "|"
    rw [← hmark, String.append_assoc]
    rfl
  rw [rowLine, String.append_assoc, hbar]
  induction cells with
  | nil => exact absurd rfl h
  | cons first rest ih =>
    rcases rest with _ | ⟨second, others⟩
    · rw [String.intercalate_singleton, hlast, List.map_singleton, List.sum_singleton,
        List.length_singleton]
      omega
    · have hsplit : " | ".intercalate (first :: second :: others) ++ " |" =
          first ++ " " ++ ("| " ++ (" | ".intercalate (second :: others) ++ " |")) := by
        rw [String.intercalate_cons_cons]
        simp only [String.append_assoc]
        rfl
      have hrest := ih (List.cons_ne_nil second others)
      rw [hsplit, openBars_append_space, hbar, List.map_cons, List.sum_cons, List.length_cons]
      omega

/-- A row stands on one line exactly if all of its cells do. -/
theorem oneLine_rowLine : OneLine (rowLine cells) ↔ ∀ cell ∈ cells, OneLine cell := by
  have hmarks : OneLine "| " ∧ OneLine " |" := by decide
  rw [rowLine, Text.oneLine_append, Text.oneLine_append, Text.oneLine_intercalate (by decide)]
  simp [hmarks]

/-! ### Tables -/

/-- Whether a text is a table with so many columns and so many entries: two lines and one for each
entry, and an empty line behind them, where every line has as many cells as there are columns. -/
def InShape (columns entries : Nat) (text : String) : Prop :=
  ∃ lines : List String, lines.length = entries + 2 ∧
    (∀ line ∈ lines, OneLine line ∧ openBars line = columns + 1) ∧ text = unlines (lines ++ [""])

theorem table_eq_unlines (headers : List String) (rows : List (List String)) :
    table headers rows =
      unlines ((headers :: List.replicate headers.length "---" :: rows).map rowLine ++ [""]) := by
  have hlines : ∀ rows : List (List String),
      unlines (rows.map rowLine) = String.join (rows.map tableRow) := by
    intro rows
    rw [unlines, List.map_map]
    exact congrArg String.join (List.map_congr_left fun row _ => (tableRow_eq row).symm)
  rw [Text.unlines_append, hlines, List.map_cons, List.map_cons, String.join_cons,
    String.join_cons, ← String.append_assoc]
  rfl

/-- Whether a text can be a cell and leave the row as it is: it stands on one line and has no open
bar. -/
def Fits (text : String) : Prop :=
  OneLine text ∧ openBars text = 0

instance (text : String) : Decidable (Fits text) :=
  inferInstanceAs (Decidable (OneLine text ∧ openBars text = 0))

/-- A row has as many cells as are put into it exactly if each of them fits. -/
theorem rowLine_iff_fits (h : cells ≠ []) :
    (OneLine (rowLine cells) ∧ openBars (rowLine cells) = cells.length + 1) ↔
      ∀ cell ∈ cells, Fits cell := by
  have hbars : openBars (rowLine cells) = cells.length + 1 ↔ ∀ cell ∈ cells, openBars cell = 0 := by
    rw [openBars_rowLine h, Nat.add_eq_left, List.sum_eq_zero_iff_forall_eq_nat,
      List.forall_mem_map]
  rw [oneLine_rowLine, hbars]
  exact ⟨fun ⟨hline, hnone⟩ cell hcell => ⟨hline cell hcell, hnone cell hcell⟩,
    fun hfits => ⟨fun cell hcell => (hfits cell hcell).1, fun cell hcell => (hfits cell hcell).2⟩⟩

/-- A table has its shape exactly if each of its cells fits. -/
theorem inShape_table_iff (hheaders : headers ≠ []) (hfits : ∀ header ∈ headers, Fits header)
    (hrows : ∀ row ∈ rows, row.length = headers.length) :
    InShape headers.length rows.length (table headers rows) ↔
      ∀ row ∈ rows, ∀ cell ∈ row, Fits cell := by
  let all := headers :: List.replicate headers.length "---" :: rows
  have hrule : ∀ cell ∈ List.replicate headers.length "---", Fits cell := by
    intro cell hcell
    obtain rfl := List.eq_of_mem_replicate hcell
    decide
  have hlength : ∀ row ∈ all, row.length = headers.length := by
    simpa [all] using hrows
  have hrow : ∀ row ∈ all,
      (OneLine (rowLine row) ∧ openBars (rowLine row) = headers.length + 1) ↔
        ∀ cell ∈ row, Fits cell := by
    intro row hrow
    rw [← hlength row hrow]
    refine rowLine_iff_fits fun hnil => hheaders ?_
    rw [← List.length_eq_zero_iff, ← hlength row hrow, hnil, List.length_nil]
  rw [table_eq_unlines]
  constructor
  · rintro ⟨lines, hcount, hlines, htext⟩ row hmem
    -- a text is divided into lines in one way only, so these are the rows that were written
    have hsame : all.map rowLine ++ [""] = lines ++ [""] := by
      refine Text.eq_of_unlines_eq htext (by simp [all, hcount]) fun line hline => ?_
      rcases List.mem_append.mp hline with hline | hlast
      · exact (hlines line hline).1
      · obtain rfl := List.mem_singleton.mp hlast
        exact Text.oneLine_empty
    obtain rfl := List.append_cancel_right hsame
    have hall : row ∈ all := List.mem_cons_of_mem _ (List.mem_cons_of_mem _ hmem)
    exact (hrow row hall).mp (hlines _ (List.mem_map_of_mem hall))
  · intro hcells
    have hall : ∀ row ∈ all, ∀ cell ∈ row, Fits cell :=
      List.forall_mem_cons.mpr ⟨hfits, List.forall_mem_cons.mpr ⟨hrule, hcells⟩⟩
    refine ⟨all.map rowLine, by simp [all], ?_, rfl⟩
    exact List.forall_mem_map.mpr fun row hmem => (hrow row hmem).mpr (hall row hmem)

end SchemaPages.Markdown
