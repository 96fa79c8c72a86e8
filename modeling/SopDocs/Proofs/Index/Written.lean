import SopDocs.Index.Render
import SopDocs.Proofs.Markdown.TableRow

/-!
# The lines of a written index

Each line of a written index is a bar and then, column by column, some text and another
bar. In the head and the rows the text is the cell with at least one space on either
side, in the line below the head it is dashes with a colon.
-/

namespace SopDocs.Index

open SopDocs.Markdown (OneLine barredText isDelimiter)

/-- Texts that are cells with spaces around them, at least one on either side. -/
inductive Padded : List String → List (List Char) → Prop where
  | nil : Padded [] []
  | cons {cells : List String} {texts : List (List Char)} (cell : String) (a b : Nat)
      (hrest : Padded cells texts) :
      Padded (cell :: cells)
        ((List.replicate (a + 1) ' ' ++ (cell.toList ++ List.replicate (b + 1) ' ')) :: texts)

theorem Padded.length_eq {cells : List String} {texts : List (List Char)}
    (h : Padded cells texts) : texts.length = cells.length := by
  induction h with
  | nil => rfl
  | cons _ _ _ _ ih => rw [List.length_cons, List.length_cons, ih]

theorem Padded.exists_cell {cells : List String} {texts : List (List Char)}
    (h : Padded cells texts) {text : List Char} (htext : text ∈ texts) :
    ∃ cell ∈ cells, ∃ a b,
      text = List.replicate (a + 1) ' ' ++ (cell.toList ++ List.replicate (b + 1) ' ') := by
  induction h with
  | nil => cases htext
  | cons cell a b _ ih =>
    rcases List.mem_cons.mp htext with rfl | htext
    · exact ⟨cell, List.mem_cons_self, a, b, rfl⟩
    · obtain ⟨c, hc, hpad⟩ := ih htext
      exact ⟨c, List.mem_cons_of_mem _ hc, hpad⟩

/-- Texts with bars between and around them, and the same text on either side of each. -/
theorem toList_bars (ts : List String) (hne : ts ≠ []) (before after separator : String)
    (hseparator : separator.toList = after.toList ++ '|' :: before.toList) :
    ("|" ++ before ++ separator.intercalate ts ++ after ++ "|").toList =
      barredText (ts.map fun t => before.toList ++ (t.toList ++ after.toList)) := by
  cases ts with
  | nil => exact absurd rfl hne
  | cons t ts =>
    clear hne
    induction ts generalizing t with
    | nil => simp [barredText]
    | cons u ts ih =>
      have hrest := ih u
      rw [barredText, List.map_cons] at hrest
      simp only [String.toList_append] at hrest
      rw [String.intercalate_cons_cons, barredText, List.map_cons, List.flatMap_cons,
        List.map_cons, ← (List.cons.inj hrest).2]
      simp [hseparator]

theorem toList_blanks (n : Nat) : (blanks n).toList = List.replicate n ' ' :=
  String.toList_ofList

theorem toList_dashes (n : Nat) : (dashes n).toList = List.replicate n '-' :=
  String.toList_ofList

theorem toList_pad (column : String) (width : Nat) (cell : String) :
    ∃ a b, (pad column width cell).toList =
      List.replicate a ' ' ++ (cell.toList ++ List.replicate b ' ') := by
  unfold pad
  simp only
  split
  · exact ⟨width - cell.length, 0, by simp [toList_blanks]⟩
  · exact ⟨0, width - cell.length, by simp [toList_blanks]⟩

/-- The padded texts of cells in columns. -/
def cellTexts (columns : List String) (widths : List Nat) (cells : List String) :
    List (List Char) :=
  (columns.zip (widths.zip cells)).map fun (column, width, cell) =>
    ' ' :: ((pad column width cell).toList ++ [' '])

theorem padded_cellTexts {columns : List String} {widths : List Nat} {cells : List String}
    (hcolumns : columns.length = cells.length) (hwidths : widths.length = cells.length) :
    Padded cells (cellTexts columns widths cells) := by
  induction cells generalizing columns widths with
  | nil =>
    rw [List.eq_nil_of_length_eq_zero hcolumns]
    exact .nil
  | cons cell cells ih =>
    cases columns with
    | nil => cases hcolumns
    | cons column columns =>
      cases widths with
      | nil => cases hwidths
      | cons width widths =>
        have hrest := ih (Nat.succ.inj hcolumns) (Nat.succ.inj hwidths)
        obtain ⟨a, b, hpad⟩ := toList_pad column width cell
        have htext : ' ' :: ((pad column width cell).toList ++ [' ']) =
            List.replicate (a + 1) ' ' ++ (cell.toList ++ List.replicate (b + 1) ' ') := by
          rw [hpad, List.replicate_succ, List.replicate_succ']
          simp
        have hcons := Padded.cons cell a b hrest
        rw [← htext] at hcons
        exact hcons

/-- A line of the table is its padded cells with bars around them. -/
theorem toList_rowLine {widths : List Nat} {cells : List String}
    (hwidths : widths.length = columns.length) (hcells : cells.length = columns.length) :
    (rowLine widths cells).toList = barredText (cellTexts columns widths cells) := by
  have hlength : 0 < (columns.zip (widths.zip cells)).length := by
    rw [List.length_zip, List.length_zip, hwidths, hcells]
    decide
  have hne : (columns.zip (widths.zip cells)).map
      (fun (column, width, cell) => pad column width cell) ≠ [] := by
    intro h
    rw [List.map_eq_nil_iff.mp h] at hlength
    cases hlength
  have hbars := toList_bars _ hne " " " " " | " rfl
  rw [List.map_map] at hbars
  unfold rowLine
  rw [show ("| " : String) = "|" ++ " " from rfl, show (" |" : String) = " " ++ "|" from rfl,
    ← String.append_assoc, hbars]
  rfl

/-- The dashes of a column with their colon. -/
def ruleText (column : String) (width : Nat) : String :=
  if isNumeric column then dashes (width + 1) ++ ":" else ":" ++ dashes (width + 1)

theorem toList_ruleLine {widths : List Nat} (hwidths : widths.length = columns.length) :
    (ruleLine widths).toList =
      barredText
        ((columns.zip widths).map fun (column, width) => (ruleText column width).toList) := by
  have hlength : 0 < (columns.zip widths).length := by
    rw [List.length_zip, hwidths]
    decide
  have hne : (columns.zip widths).map (fun (column, width) => ruleText column width) ≠ [] := by
    intro h
    rw [List.map_eq_nil_iff.mp h] at hlength
    cases hlength
  have hbars := toList_bars _ hne "" "" "|" rfl
  rw [List.map_map] at hbars
  simp only [String.append_empty] at hbars
  refine Eq.trans hbars ?_
  simp [Function.comp_def]

theorem isDelimiter_ruleText (column : String) (width : Nat) :
    isDelimiter (ruleText column width).toList = true := by
  unfold ruleText
  split
  · have hdrop : ('-' :: List.replicate width '-' ++ [':']).dropLast =
        '-' :: List.replicate width '-' := List.dropLast_concat
    have hlast : ('-' :: List.replicate width '-' ++ [':']).getLast? = some ':' :=
      List.getLast?_concat
    rw [String.toList_append, toList_dashes, List.replicate_succ]
    change isDelimiter ('-' :: List.replicate width '-' ++ [':']) = true
    rw [isDelimiter]
    · simp only [hdrop, hlast]
      simp
    · intro r h
      cases h
  · rw [String.toList_append, toList_dashes, List.replicate_succ]
    simp [isDelimiter]

theorem mem_ruleText {column : String} {width : Nat} {c : Char}
    (h : c ∈ (ruleText column width).toList) : c = '-' ∨ c = ':' := by
  unfold ruleText at h
  split at h
  · rw [String.toList_append, toList_dashes] at h
    rcases List.mem_append.mp h with h | h
    · exact Or.inl (List.eq_of_mem_replicate h)
    · exact Or.inr (List.mem_singleton.mp h)
  · rw [String.toList_append, toList_dashes] at h
    rcases List.mem_append.mp h with h | h
    · exact Or.inr (List.mem_singleton.mp h)
    · exact Or.inl (List.eq_of_mem_replicate h)

theorem length_widths (rows : List (List String)) : (widths rows).length = columns.length := by
  simp [widths, columnCells]

/-- The texts of the lines of a written index: the head, the line below it and the rows. -/
def lineTexts (rows : List (List String)) : List (List Char) :=
  (markdownLines rows).map String.toList

theorem lineTexts_eq (rows : List (List String)) :
    lineTexts rows = (rowLine (widths rows) columns).toList ::
      (ruleLine (widths rows)).toList ::
        rows.map fun row => (rowLine (widths rows) row).toList := by
  simp [lineTexts, markdownLines]

theorem toList_markdownText (entries : List Entry) :
    (markdownText entries).toList =
      (lineTexts (entries.map Entry.cells)).flatMap (· ++ ['\n']) := by
  have hlines : ∀ (t : String) (ts : List String),
      ("\n".intercalate (t :: ts) ++ "\n").toList =
        ((t :: ts).map String.toList).flatMap (· ++ ['\n']) := by
    intro t ts
    induction ts generalizing t with
    | nil => simp
    | cons u ts ih =>
      have hrest := ih u
      rw [List.map_cons, List.flatMap_cons, ← hrest, String.intercalate_cons_cons]
      simp
  exact hlines _ _

end SopDocs.Index
