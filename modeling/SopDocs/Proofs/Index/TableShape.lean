import Mathlib.Data.List.Forall2
import SopDocs.Proofs.Index.Written
import SopDocs.Proofs.Path
import SopDocs.Proofs.Text.Slice

/-!
# The shape of a written table

A written table is cut at its line ends and its bars alone, without any reading of markdown: the
pieces of a line are its cells with spaces around them. All lines are equally long, since a column
is as wide as its widest cell and every line fills the columns up.
-/

namespace SopDocs.Text

/-- Texts that end with a mark are what stands between the marks. -/
theorem pieces_flatMap_marked {mark : Char} {texts : List (List Char)}
    (h : ∀ text ∈ texts, mark ∉ text) :
    pieces (· == mark) (texts.flatMap (· ++ [mark])) = texts ++ [[]] := by
  induction texts with
  | nil => rfl
  | cons text texts ih =>
    obtain ⟨htext, hrest⟩ := List.forall_mem_cons.mp h
    have huncut : ∀ c ∈ text, (c == mark) = false := fun c hc => by
      rw [beq_eq_false_iff_ne]
      rintro rfl
      exact htext hc
    have hcut : ∀ rest, pieces (· == mark) (text ++ mark :: rest) =
        pieces (· == mark) text ++ pieces (· == mark) rest := fun rest =>
      pieces_append_cut (by simp) text rest
    rw [List.flatMap_cons, List.append_assoc, List.singleton_append, hcut, pieces_of_uncut huncut,
      ih hrest]
    rfl

end SopDocs.Text

namespace SopDocs.Index

open SopDocs.Markdown (barredText)

variable {cells : List String} {texts : List (List Char)} {rows : List (List String)}

/-- Whether a text holds no bar and no line end, and has no white space around it. -/
def IsCell (cell : String) : Prop :=
  '|' ∉ cell.toList ∧ '\n' ∉ cell.toList ∧ Text.trim cell.toList = cell.toList

instance (cell : String) : Decidable (IsCell cell) :=
  inferInstanceAs (Decidable (_ ∧ _ ∧ _))

/-- What stands between the bars of a line. -/
def innerPieces (line : List Char) : List (List Char) :=
  ((Text.pieces (· == '|') line).drop 1).dropLast

/-- What stands between the bars of a line, without the white space around it. -/
def cellsOf (line : List Char) : List String :=
  (innerPieces line).map fun piece => String.ofList (Text.trim piece)

/-! ### Bars -/

theorem innerPieces_barredText (h : ∀ text ∈ texts, '|' ∉ text) :
    innerPieces (barredText texts) = texts := by
  have hpieces : Text.pieces (· == '|') (barredText texts) = [] :: (texts ++ [[]]) :=
    congrArg ([] :: ·) (Text.pieces_flatMap_marked h)
  rw [innerPieces, hpieces, List.drop_one, List.tail_cons, List.dropLast_concat]

theorem count_barredText (h : ∀ text ∈ texts, '|' ∉ text) :
    (barredText texts).count '|' = texts.length + 1 := by
  rw [barredText, List.count_cons_self]
  congr 1
  induction texts with
  | nil => rfl
  | cons text texts ih =>
    obtain ⟨htext, hrest⟩ := List.forall_mem_cons.mp h
    rw [List.flatMap_cons, List.count_append, List.count_append, ih hrest,
      List.count_eq_zero_of_not_mem htext, List.count_singleton_self, List.length_cons]
    omega

/-- The length of a line is determined by those of the texts between its bars. -/
theorem length_barredText_congr {others : List (List Char)}
    (h : texts.map List.length = others.map List.length) :
    (barredText texts).length = (barredText others).length := by
  rw [barredText, barredText, List.length_cons, List.length_cons]
  congr 1
  induction texts generalizing others with
  | nil =>
    rw [List.map_eq_nil_iff.mp h.symm]
  | cons text texts ih =>
    cases others with
    | nil => cases h
    | cons other others =>
      obtain ⟨hlength, hrest⟩ := List.cons.inj h
      rw [List.flatMap_cons, List.flatMap_cons, List.length_append, List.length_append, ih hrest,
        List.length_append, List.length_append, hlength]

/-! ### Padded cells -/

theorem trim_padded {cell : List Char} (h : Text.trim cell = cell) (a b : Nat) :
    Text.trim (List.replicate a ' ' ++ (cell ++ List.replicate b ' ')) = cell := by
  have hblank : ∀ n, ∀ c ∈ List.replicate n ' ', Text.isBlank c = true := fun n c hc => by
    rw [List.eq_of_mem_replicate hc]
    decide
  by_cases hnil : cell = []
  · subst hnil
    refine Text.trim_eq_nil_iff.mpr fun c hc => ?_
    rcases List.mem_append.mp hc with hc | hc
    · exact hblank a c hc
    · exact hblank b c hc
  · exact Text.trim_append_blank h hnil (hblank a) (hblank b)

theorem Padded.trim_eq (h : Padded cells texts) (hcells : ∀ cell ∈ cells, IsCell cell) :
    (texts.map fun text => String.ofList (Text.trim text)) = cells := by
  induction h with
  | nil => rfl
  | cons cell a b _ ih =>
    obtain ⟨⟨-, -, htrim⟩, hrest⟩ := List.forall_mem_cons.mp hcells
    rw [List.map_cons, ih hrest, trim_padded htrim, String.ofList_toList]

theorem Padded.not_mem (h : Padded cells texts) {c : Char} (hspace : c ≠ ' ')
    (hcells : ∀ cell ∈ cells, c ∉ cell.toList) : ∀ text ∈ texts, c ∉ text := by
  intro text htext hc
  obtain ⟨cell, hcell, a, b, rfl⟩ := h.exists_cell htext
  rcases List.mem_append.mp hc with hc | hc
  · exact hspace (List.eq_of_mem_replicate hc)
  · rcases List.mem_append.mp hc with hc | hc
    · exact hcells cell hcell hc
    · exact hspace (List.eq_of_mem_replicate hc)

/-! ### Widths -/

theorem le_foldl_max {l : List Nat} {m n : Nat} (h : n ∈ l ∨ n ≤ m) : n ≤ l.foldl max m := by
  induction l generalizing m with
  | nil => simpa using h
  | cons k l ih =>
    refine ih ?_
    rcases h with h | h
    · rcases List.mem_cons.mp h with rfl | h
      · exact .inr (Nat.le_max_right _ _)
      · exact .inl h
    · exact .inr (Nat.le_trans h (Nat.le_max_left _ _))

theorem minWidth_le_width (cells : List String) : minWidth ≤ width cells :=
  le_foldl_max (.inr (Nat.le_refl _))

theorem length_le_width {cell : String} (h : cell ∈ cells) : cell.length ≤ width cells :=
  le_foldl_max (.inl (List.mem_map_of_mem h))

/-- Whether each cell fits its column. -/
def Fit (cells : List String) (widths : List Nat) : Prop :=
  List.Forall₂ (fun cell width => cell.length ≤ width) cells widths

theorem get_widths {i : Nat} (hwidths : i < (widths rows).length) (hcolumns : i < columns.length) :
    (widths rows).get ⟨i, hwidths⟩ =
      width (columns.get ⟨i, hcolumns⟩ :: rows.map fun row => row.getD i "") := by
  simp [widths, columnCells]

/-- The head fits the columns. -/
theorem fit_columns (rows : List (List String)) : Fit columns (widths rows) := by
  refine List.forall₂_iff_get.mpr ⟨(length_widths rows).symm, fun i hcolumns hwidths => ?_⟩
  rw [get_widths hwidths hcolumns]
  exact length_le_width List.mem_cons_self

/-- Every row fits the columns. -/
theorem fit_row {row : List String} (hrow : row ∈ rows) (hlength : row.length = columns.length) :
    Fit row (widths rows) := by
  refine List.forall₂_iff_get.mpr ⟨hlength.trans (length_widths rows).symm, fun i hi hwidths => ?_⟩
  rw [get_widths hwidths (hlength ▸ hi)]
  refine length_le_width (List.mem_cons_of_mem _ (List.mem_map.mpr ⟨row, hrow, ?_⟩))
  rw [List.getD_eq_getElem?_getD, List.getElem?_eq_getElem hi, Option.getD_some, List.get_eq_getElem]

theorem minWidth_le_widths (rows : List (List String)) : ∀ w ∈ widths rows, minWidth ≤ w := by
  intro w hw
  obtain ⟨cells, -, rfl⟩ := List.mem_map.mp hw
  exact minWidth_le_width cells

theorem length_pad {column cell : String} {width : Nat} (h : cell.length ≤ width) :
    (pad column width cell).length = width := by
  unfold pad
  simp only
  split <;> simp [blanks] <;> omega

/-- Texts of cells that fit fill their columns, with a space on either side. -/
theorem map_length_cellTexts {columns : List String} {widths : List Nat} (h : Fit cells widths)
    (hcolumns : columns.length = cells.length) :
    (cellTexts columns widths cells).map List.length = widths.map (· + 2) := by
  unfold Fit at h
  induction h generalizing columns with
  | nil => simp [cellTexts]
  | @cons cell width cells widths hfit hrest ih =>
    cases columns with
    | nil => cases hcolumns
    | cons column columns =>
      have hlength : (pad column width cell).toList.length = width := length_pad hfit
      have hrest := ih (Nat.succ.inj hcolumns)
      unfold cellTexts at hrest ⊢
      rw [List.zip_cons_cons, List.zip_cons_cons, List.map_cons, List.map_cons, hrest]
      simp [hlength]

theorem length_ruleText (column : String) (width : Nat) :
    (ruleText column width).toList.length = width + 2 := by
  unfold ruleText
  split <;> simp [toList_dashes]

/-! ### Lines -/

/-- What each line of a table is made of: a text for each column, of the width of the column. -/
structure Filled (widths : List Nat) (texts : List (List Char)) (line : List Char) : Prop where
  line_eq : line = barredText texts
  lengths : texts.map List.length = widths.map (· + 2)
  noBar : ∀ text ∈ texts, '|' ∉ text
  noEnd : ∀ text ∈ texts, '\n' ∉ text

section Lines

variable {widths : List Nat} {line : List Char}

theorem Filled.length_eq {others : List (List Char)} {other : List Char}
    (h : Filled widths texts line) (hother : Filled widths others other) :
    line.length = other.length := by
  rw [h.line_eq, hother.line_eq]
  exact length_barredText_congr (h.lengths.trans hother.lengths.symm)

theorem Filled.count_eq (h : Filled widths texts line) :
    line.count '|' = widths.length + 1 := by
  have hcount : texts.length = widths.length := by
    simpa using congrArg List.length h.lengths
  rw [h.line_eq, count_barredText h.noBar, hcount]

theorem Filled.oneLine (h : Filled widths texts line) : '\n' ∉ line := by
  rw [h.line_eq]
  intro hend
  rcases List.mem_cons.mp hend with hend | hend
  · cases hend
  · obtain ⟨text, htext, hend⟩ := List.mem_flatMap.mp hend
    rcases List.mem_append.mp hend with hend | hend
    · exact h.noEnd text htext hend
    · cases List.mem_singleton.mp hend

theorem Filled.innerPieces_eq (h : Filled widths texts line) : innerPieces line = texts := by
  rw [h.line_eq, innerPieces_barredText h.noBar]

/-- The line of cells that fit gives the cells back. -/
theorem filled_rowLine (hfit : Fit cells widths) (hcolumns : cells.length = columns.length)
    (hcells : ∀ cell ∈ cells, IsCell cell) :
    Filled widths (cellTexts columns widths cells) (rowLine widths cells).toList ∧
      cellsOf (rowLine widths cells).toList = cells := by
  have hwidths : widths.length = cells.length := hfit.length_eq.symm
  have hpadded : Padded cells (cellTexts columns widths cells) :=
    padded_cellTexts hcolumns.symm hwidths
  have hfilled : Filled widths (cellTexts columns widths cells) (rowLine widths cells).toList :=
    ⟨toList_rowLine (hwidths.trans hcolumns) hcolumns,
      map_length_cellTexts hfit hcolumns.symm,
      hpadded.not_mem (by decide) fun cell hcell => (hcells cell hcell).1,
      hpadded.not_mem (by decide) fun cell hcell => (hcells cell hcell).2.1⟩
  refine ⟨hfilled, ?_⟩
  rw [cellsOf, hfilled.innerPieces_eq]
  exact hpadded.trim_eq hcells

/-- The texts of the line below the head. -/
def ruleTexts (widths : List Nat) : List (List Char) :=
  (columns.zip widths).map fun (column, width) => (ruleText column width).toList

theorem filled_ruleLine (hwidths : widths.length = columns.length) :
    Filled widths (ruleTexts widths) (ruleLine widths).toList := by
  have hmem : ∀ {c : Char}, c ≠ '-' → c ≠ ':' → ∀ text ∈ ruleTexts widths, c ∉ text := by
    intro c hdash hcolon text htext hc
    obtain ⟨p, -, rfl⟩ := List.mem_map.mp htext
    exact (mem_ruleText hc).elim hdash hcolon
  refine ⟨toList_ruleLine hwidths, ?_, hmem (by decide) (by decide), hmem (by decide) (by decide)⟩
  have hlengths : (ruleTexts widths).map List.length =
      (columns.zip widths).map fun p => p.2 + 2 := by
    rw [ruleTexts, List.map_map]
    exact List.map_congr_left fun p _ => length_ruleText p.1 p.2
  have hsnd : (columns.zip widths).map Prod.snd = widths :=
    List.map_snd_zip (Nat.le_of_eq hwidths)
  rw [hlengths, ← congrArg (List.map (· + 2)) hsnd, List.map_map]
  rfl

end Lines

/-- Whether a text is dashes, and a colon on the side that its column is set to. -/
def Rules (column : String) (text : List Char) : Prop :=
  ∃ n, minWidth < n ∧ text =
    if column = stepsColumn then List.replicate n '-' ++ [':'] else ':' :: List.replicate n '-'

theorem rules_ruleText {column : String} {width : Nat} (h : minWidth ≤ width) :
    Rules column (ruleText column width).toList := by
  refine ⟨width + 1, Nat.lt_succ_of_le h, ?_⟩
  unfold ruleText isNumeric
  by_cases hcolumn : column = stepsColumn
  · simp [hcolumn, toList_dashes]
  · simp [hcolumn, toList_dashes]

theorem forall₂_rules {columns : List String} {widths : List Nat}
    (hwidths : columns.length = widths.length) (hmin : ∀ w ∈ widths, minWidth ≤ w) :
    List.Forall₂ Rules columns
      ((columns.zip widths).map fun (column, width) => (ruleText column width).toList) := by
  induction columns generalizing widths with
  | nil => exact .nil
  | cons column columns ih =>
    cases widths with
    | nil => cases hwidths
    | cons width widths =>
      obtain ⟨hwidth, hmin⟩ := List.forall_mem_cons.mp hmin
      exact .cons (rules_ruleText hwidth) (ih (Nat.succ.inj hwidths) hmin)

theorem isCell_columns : ∀ column ∈ columns, IsCell column := by decide

section Rows

variable (hrows : ∀ row ∈ rows, row.length = columns.length)
  (hcells : ∀ row ∈ rows, ∀ cell ∈ row, IsCell cell)

include hrows hcells

theorem filled_row {row : List String} (hrow : row ∈ rows) :
    Filled (widths rows) (cellTexts columns (widths rows) row)
        (rowLine (widths rows) row).toList ∧
      cellsOf (rowLine (widths rows) row).toList = row :=
  filled_rowLine (fit_row hrow (hrows row hrow)) (hrows row hrow) (hcells row hrow)

theorem exists_filled {line : List Char} (h : line ∈ lineTexts rows) :
    ∃ texts, Filled (widths rows) texts line := by
  rw [lineTexts_eq, List.mem_cons, List.mem_cons, List.mem_map] at h
  rcases h with h | h | ⟨row, hrow, h⟩
  · rw [h]
    exact ⟨_, (filled_rowLine (fit_columns rows) rfl isCell_columns).1⟩
  · rw [h]
    exact ⟨_, filled_ruleLine (length_widths rows)⟩
  · rw [← h]
    exact ⟨_, (filled_row hrows hcells hrow).1⟩

end Rows

/-- **A written table is well formed and gives its cells back.** Its lines are the head, the line
below it and one for each entry. They are equally long and have a bar around and between the
columns, and between the bars stand the cells, or the dashes that tell how a column is set. -/
theorem render_markdown_shape (entries : List Entry)
    (hcells : ∀ e ∈ entries, ∀ cell ∈ e.cells, IsCell cell) :
    ∃ head rule rows,
      Text.pieces (· == '\n') (render .markdown entries).toList = head :: rule :: (rows ++ [[]]) ∧
      (head :: rule :: rows).length = 2 + entries.length ∧
      (∃ length, ∀ line ∈ head :: rule :: rows, line.length = length) ∧
      (∀ line ∈ head :: rule :: rows, line.count '|' = 10) ∧
      cellsOf head = columns ∧ rows.map cellsOf = entries.map Entry.cells ∧
      List.Forall₂ Rules columns (innerPieces rule) := by
  obtain ⟨cells, hentries⟩ : ∃ cells, cells = entries.map Entry.cells := ⟨_, rfl⟩
  have hlength : ∀ row ∈ cells, row.length = columns.length := by
    rw [hentries]
    exact List.forall_mem_map.mpr fun _ _ => rfl
  have hcells : ∀ row ∈ cells, ∀ cell ∈ row, IsCell cell := by
    rw [hentries]
    exact List.forall_mem_map.mpr hcells
  have hlines : ∀ line ∈ lineTexts cells, ∃ texts, Filled (widths cells) texts line :=
    fun _ => exists_filled hlength hcells
  have hpieces : Text.pieces (· == '\n') (render .markdown entries).toList =
      lineTexts cells ++ [[]] := by
    rw [render, toList_markdownText, ← hentries]
    refine Text.pieces_flatMap_marked fun line hline => ?_
    obtain ⟨texts, hfilled⟩ := hlines line hline
    exact hfilled.oneLine
  have hlengths : ∃ length, ∀ line ∈ lineTexts cells, line.length = length := by
    refine ⟨(ruleLine (widths cells)).toList.length, fun line hline => ?_⟩
    obtain ⟨texts, hfilled⟩ := hlines line hline
    exact hfilled.length_eq (filled_ruleLine (length_widths cells))
  rw [lineTexts_eq] at hlines hpieces hlengths
  refine ⟨_, _, _, hpieces, ?_, hlengths, fun line hline => ?_, ?_, ?_, ?_⟩
  · have hcount : cells.length = entries.length := by rw [hentries, List.length_map]
    rw [List.length_cons, List.length_cons, List.length_map, hcount]
    omega
  · obtain ⟨texts, hfilled⟩ := hlines line hline
    rw [hfilled.count_eq, length_widths]
    rfl
  · exact (filled_rowLine (fit_columns cells) rfl isCell_columns).2
  · rw [List.map_map, ← hentries]
    exact (List.map_congr_left fun row hrow => (filled_row hlength hcells hrow).2).trans
      (List.map_id cells)
  · rw [(filled_ruleLine (length_widths cells)).innerPieces_eq]
    exact forall₂_rules (length_widths cells).symm (minWidth_le_widths cells)

/-- Two entries, one with a cell that is empty and one with a name that is no ASCII. -/
def nordicEntries : List Entry := [
  ⟨"[Zugang](./zugang.md)", "GDI-SOP0001", "1.0", "Access", "", "Node", "v2", 12, "2024-05-01"⟩,
  ⟨"Åland øst", "GDI-SOP0002", "1.0", "Data", "Method", "Norway", "v1", 7, "2023-11-30"⟩]

theorem render_markdown_shape_nordic :
    (∀ e ∈ nordicEntries, ∀ cell ∈ e.cells, IsCell cell) ∧
    ∃ head rule rows,
      Text.pieces (· == '\n') (render .markdown nordicEntries).toList =
        head :: rule :: (rows ++ [[]]) ∧
      rows.length = 2 ∧ rows.map cellsOf = nordicEntries.map Entry.cells := by
  have hcells : ∀ e ∈ nordicEntries, ∀ cell ∈ e.cells, IsCell cell := by decide +kernel
  obtain ⟨head, rule, rows, hpieces, hcount, -, -, -, hrows, -⟩ :=
    render_markdown_shape nordicEntries hcells
  have hentries : nordicEntries.length = 2 := rfl
  rw [List.length_cons, List.length_cons, hentries] at hcount
  exact ⟨hcells, head, rule, rows, hpieces, by omega, hrows⟩

end SopDocs.Index
