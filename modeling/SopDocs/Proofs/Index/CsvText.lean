import SopDocs.Index.Render
import SopDocs.Proofs.Csv

/-!
# The index as comma-separated values loses nothing

Each field is written without quotes only if every character of it stands for itself there, and
each line is ended. So the written index holds the names of the columns and, in order, the cells of
the entries, whatever characters these are made of, and a text that holds a table of nine columns
holds no other one.
-/

namespace SopDocs.Index

open Csv (WrittenField WrittenRecord WrittenRecords QuotedText Holds LineEnd isTextData)

/-! ### Fields -/

theorem isTextData_eq (c : Char) : isTextData c = !needsQuotes c := by
  simp [isTextData, needsQuotes, bne]

/-- A quote written twice is how quotes stand between quotes. -/
theorem quotedText_doubled (cell : List Char) :
    QuotedText (cell.flatMap fun c => if c = '"' then ['"', '"'] else [c]) cell := by
  induction cell with
  | nil => exact .nil
  | cons c cell ih =>
    rw [List.flatMap_cons]
    split
    · next hc =>
      subst hc
      exact .quote ih
    · next hc => exact .plain hc ih

theorem written_csvField (cell : String) : WrittenField (csvField cell).toList cell.toList := by
  unfold csvField
  split
  · rw [String.toList_ofList]
    exact .quoted (quotedText_doubled cell.toList)
  · next hplain =>
    refine .bare fun c hc => ?_
    rw [isTextData_eq, Bool.not_eq_true']
    exact Bool.eq_false_iff.mpr fun hquotes => hplain (List.any_eq_true.mpr ⟨c, hc, hquotes⟩)

/-! ### Lines -/

theorem written_fields {cells : List String} (hne : cells ≠ []) :
    WrittenRecord (",".intercalate (cells.map csvField)).toList cells := by
  induction cells with
  | nil => exact absurd rfl hne
  | cons cell cells ih =>
    cases cells with
    | nil => simpa using WrittenRecord.last (written_csvField cell)
    | cons next cells =>
      have hrest := ih (List.cons_ne_nil next cells)
      have hline := WrittenRecord.more (written_csvField cell) hrest
      rw [List.map_cons, List.map_cons, String.intercalate_cons_cons, ← List.map_cons]
      simpa using hline

theorem toList_csvLine (cells : List String) :
    (csvLine cells).toList = (",".intercalate (cells.map csvField)).toList ++ ['\n'] := by
  unfold csvLine
  rw [String.toList_append]
  rfl

theorem written_lines {rows : List (List String)} (hrows : ∀ cells ∈ rows, cells ≠ []) :
    WrittenRecords (String.join (rows.map csvLine)).toList rows := by
  induction rows with
  | nil => exact .none
  | cons cells rows ih =>
    obtain ⟨hcells, hrows⟩ := List.forall_mem_cons.mp hrows
    have hlines := WrittenRecords.more (written_fields hcells) .feed (ih hrows)
    rw [List.map_cons, String.join_cons, String.toList_append, toList_csvLine, List.append_assoc]
    exact hlines

/-! ### The index -/

/-- The names of the columns and the cells of each entry. -/
def csvTable (entries : List Entry) : List (List String) := columns :: entries.map Entry.cells

theorem length_of_mem_csvTable {entries : List Entry} {record : List String}
    (h : record ∈ csvTable entries) : record.length = 9 := by
  rcases List.mem_cons.mp h with rfl | h
  · rfl
  · obtain ⟨entry, -, rfl⟩ := List.mem_map.mp h
    rfl

theorem wide_csvTable (entries : List Entry) : ∀ record ∈ csvTable entries, 2 ≤ record.length := by
  intro record hrecord
  have hlength := length_of_mem_csvTable hrecord
  omega

theorem holds_csvText (entries : List Entry) : Holds (csvText entries) (csvTable entries) where
  written := written_lines fun cells hcells hnil => by
    have hlength := length_of_mem_csvTable hcells
    rw [hnil] at hlength
    cases hlength
  even record hrecord other hother := by
    rw [length_of_mem_csvTable hrecord, length_of_mem_csvTable hother]

theorem holds_csvText_iff (entries : List Entry) (table : List (List String)) :
    Holds (csvText entries) table ↔ table = csvTable entries := by
  constructor
  · intro htable
    exact (holds_csvText entries).unique (List.cons_ne_nil _ _) (wide_csvTable entries) htable
  · rintro rfl
    exact holds_csvText entries

/-- **The written index is read back as it was.** Its text holds the names of the nine columns and
below them, in order, the nine cells of each entry, and by the grammar it holds no other table. So
two lists of entries are written alike exactly if their cells are the same. -/
theorem render_csv_lossless (entries : List Entry) :
    let table := columns :: entries.map Entry.cells
    Csv.read? (render .csv entries) = some table ∧
    (∀ other, Holds (render .csv entries) other ↔ other = table) ∧
    (∀ record ∈ table, record.length = 9) ∧
    ∀ others : List Entry, render .csv others = render .csv entries ↔
      others.map Entry.cells = entries.map Entry.cells := by
  intro table
  have hread : ∀ others : List Entry,
      Csv.read? (render .csv others) = some (csvTable others) := fun others =>
    Csv.read?_of_holds (holds_csvText others) (wide_csvTable others)
  refine ⟨hread entries, holds_csvText_iff entries, fun _ => length_of_mem_csvTable, ?_⟩
  intro others
  constructor
  · intro htext
    have htable : csvTable others = csvTable entries := by
      apply Option.some.inj
      rw [← hread others, ← hread entries, htext]
    exact List.tail_eq_of_cons_eq htable
  · intro hcells
    show csvText others = csvText entries
    rw [csvText, csvText, hcells]

end SopDocs.Index
