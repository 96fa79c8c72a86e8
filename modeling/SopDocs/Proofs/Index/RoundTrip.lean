import SopDocs.Index.Build
import SopDocs.Proofs.Index.CellSource
import SopDocs.Proofs.Index.Comparison
import SopDocs.Proofs.Index.Written

/-!
# A written index reads back where its cells are plain

A written index is always read back as a table with the columns of the index. Its rows
are those that were written if the cells hold no bar and start with no escape, and only
then: a bar is written as it stands and so cuts its cell, or loses the backslash before
it, and the backslash that escapes the first character of a cell is lost.
-/

namespace SopDocs.Index

open SopDocs.Markdown (Spells SpellsFrom OneLine Lines Scope Definition Glyph Line Parts Uncut
  barPieces barredText cellNode isBar rowNode stripSpaces)

variable {source : List Char} {cell : String} {gs : List Glyph}

/-! ### Cells -/

/-- The glyphs of a padded cell are those of the cell with spaces around them. -/
theorem spells_padded {a b : Nat}
    (h : Spells source (List.replicate (a + 1) ' ' ++ (cell.toList ++ List.replicate (b + 1) ' '))
      gs) :
    ∃ spaces inner more, gs = spaces ++ (inner ++ more) ∧ Spells source cell.toList inner ∧
      spaces ≠ [] ∧ (∀ g ∈ spaces, g.char = ' ') ∧ (∀ g ∈ more, g.char = ' ') := by
  obtain ⟨spaces, t, rfl, hspaces, ht⟩ := h.split
  obtain ⟨inner, more, rfl, hinner, hmore⟩ := ht.split
  have hspace : ∀ {n : Nat} {gs : List Glyph}, Spells source (List.replicate n ' ') gs →
      ∀ g ∈ gs, g.char = ' ' := by
    intro n gs hgs g hg
    rcases hgs.char_mem hg with hmem | hspace
    · exact List.eq_of_mem_replicate hmem
    · exact hspace
  refine ⟨spaces, inner, more, rfl, hinner, ?_, hspace hspaces, hspace hmore⟩
  rw [List.replicate_succ] at hspaces
  obtain ⟨g, u, hg, -⟩ := hspaces.head_char
  rw [hg]
  exact List.cons_ne_nil g u

theorem isSpace_of_char {g : Glyph} (h : g.char = ' ') : g.isSpace = true := by
  simp [Glyph.isSpace, h]

/-- The glyphs of a cell have no space around them. -/
theorem ends_of_clean (hclean : Clean cell) (h : Spells source cell.toList gs) :
    (∀ g, gs.head? = some g → g.isSpace = false) ∧
      ∀ g, gs.getLast? = some g → g.isSpace = false := by
  obtain ⟨hfirst, hlast⟩ := Text.trim_eq_self_iff.mp hclean.2
  cases hhead : cell.toList.head? with
  | none =>
    rw [List.head?_eq_none_iff.mp hhead] at h
    rw [h.eq_nil]
    exact ⟨fun g hg => (by cases hg), fun g hg => (by cases hg)⟩
  | some c =>
    have hne : cell.toList ≠ [] := by
      intro hnil
      rw [hnil] at hhead
      cases hhead
    have hend := List.getLast?_eq_some_getLast hne
    obtain ⟨f, l, hf, hl, hfchar, hlchar, -⟩ :=
      h.slice hhead hend (ne_tab (hfirst c hhead)) (ne_tab (hlast _ hend))
    constructor
    · intro g hg
      rw [← Option.some.inj (hf.symm.trans hg)]
      exact isSpace_eq_false (hfchar ▸ hfirst c hhead)
    · intro g hg
      rw [← Option.some.inj (hl.symm.trans hg)]
      exact isSpace_eq_false (hlchar ▸ hlast _ hend)

/-- Without its padding a cell spells its text. -/
theorem spells_stripSpaces {a b : Nat} (hclean : Clean cell)
    (h : Spells source (List.replicate (a + 1) ' ' ++ (cell.toList ++ List.replicate (b + 1) ' '))
      gs) : Spells source cell.toList (stripSpaces gs) := by
  obtain ⟨spaces, inner, more, rfl, hinner, -, hspaces, hmore⟩ := spells_padded h
  obtain ⟨hhead, hlast⟩ := ends_of_clean hclean hinner
  rw [Markdown.stripSpaces_append spaces inner more (fun g hg => isSpace_of_char (hspaces g hg))
    (fun g hg => isSpace_of_char (hmore g hg)) hhead hlast]
  exact hinner

/-- A text that is one piece, and has no escaped bar, has no bar at all. -/
theorem noBar_of_length {start : Nat} {cs : List Char} {e : Bool} (h : SpellsFrom start cs gs)
    (hlength : (barPieces e gs).length = 1) (hpipes : plainPipes cs = cs)
    (hescaped : e = true → ∀ t, cs ≠ '|' :: t) : '|' ∉ cs := by
  induction h generalizing e with
  | nil => exact List.not_mem_nil
  | @char start r gs g _ _ _ _ ih =>
    obtain ⟨hrest, hnext⟩ := plainPipes_eq_cons hpipes
    rw [Markdown.length_barPieces_cons] at hlength
    have hpos := Markdown.length_barPieces_pos (Markdown.escapesNext e g) gs
    have hchar : g.char ≠ '|' := by
      intro hchar
      have he : e = false := by
        cases e with
        | true => exact absurd (by rw [hchar]) (hescaped rfl r)
        | false => rfl
      have hcut : (isBar g && !Markdown.isSkipped e g) = true := by
        rw [he]
        simp [isBar, Markdown.isSkipped, hchar]
      rw [if_pos hcut] at hlength
      omega
    have hone : (barPieces (Markdown.escapesNext e g) gs).length = 1 := by omega
    have hr := ih hone hrest fun hesc t => by
      refine hnext t ?_
      unfold Markdown.escapesNext at hesc
      exact beq_iff_eq.mp (Bool.and_eq_true_iff.mp hesc).2
    intro hmem
    rcases List.mem_cons.mp hmem with hmem | hmem
    · exact hchar hmem.symm
    · exact hr hmem
  | @tab start r gs columns before after _ ih =>
    obtain ⟨hrest, -⟩ := plainPipes_eq_cons hpipes
    have hplain : ∀ g ∈ Markdown.tabGlyphs start columns before after,
        g.char ≠ '|' ∧ g.char ≠ '\\' := by
      intro g hg
      rcases List.mem_cons.mp hg with rfl | hg
      · exact ⟨show '\t' ≠ '|' by decide, show '\t' ≠ '\\' by decide⟩
      · rw [Markdown.SpellsFrom.char_fillings g hg]
        decide
    rw [Markdown.tabGlyphs, Markdown.length_barPieces_plain e hplain] at hlength
    have hr := ih hlength hrest fun h => by cases h
    intro hmem
    rcases List.mem_cons.mp hmem with hmem | hmem
    · cases hmem
    · exact hr hmem

/-- A padded cell that no bar cuts, and that has no escaped bar, has no bar. -/
theorem noBar_of_uncut {a b : Nat} (hcut : Uncut gs) (hpipes : plainPipes cell.toList = cell.toList)
    (h : Spells source (List.replicate (a + 1) ' ' ++ (cell.toList ++ List.replicate (b + 1) ' '))
      gs) : '|' ∉ cell.toList := by
  obtain ⟨spaces, inner, more, rfl, ⟨before, after, -, hinner⟩, hne, hspaces, hmore⟩ :=
    spells_padded h
  have hplain : ∀ g ∈ spaces, g.char ≠ '|' ∧ g.char ≠ '\\' := by
    intro g hg
    rw [hspaces g hg]
    decide
  have hbars : ∀ g ∈ more, isBar g = false := by
    intro g hg
    rw [isBar, hmore g hg]
    decide
  unfold Uncut at hcut
  cases spaces with
  | nil => exact absurd rfl hne
  | cons g r =>
    rw [Markdown.length_barPieces_plain false hplain,
      Markdown.length_barPieces_append false inner hbars] at hcut
    exact noBar_of_length hinner hcut hpipes fun h => by cases h

/-! ### Rows -/

section Rows

variable {cells : List String} {texts : List (List Char)} {parts : List (List Glyph × Glyph)}

theorem Padded.last_eq (h : Padded cells texts) {text : List Char} (htext : text ∈ texts) {c : Char}
    (hc : text.getLast? = some c) : c = ' ' := by
  obtain ⟨cell, -, a, b, rfl⟩ := h.exists_cell htext
  have htail : List.replicate (b + 1) ' ' = List.replicate b ' ' ++ [' '] := List.replicate_succ'
  rw [htail, ← List.append_assoc, ← List.append_assoc, List.getLast?_concat] at hc
  exact (Option.some.inj hc).symm

/-- The cells of a row whose texts no bar cuts are read back one by one. -/
theorem readBack_parts (hpadded : Padded cells texts) (h : Parts source texts parts)
    (hclean : ∀ cell ∈ cells, Clean cell) (scope : Scope) (definitions : List Definition)
    (span : Tree.Span) :
    (parts.map fun part => stripSpaces part.1).map
        (fun gs => cellSource source (cellNode scope definitions span gs)) =
      cells.map readBack := by
  induction hpadded generalizing parts with
  | nil =>
    cases h
    rfl
  | cons cell a b _ ih =>
    cases h with
    | cons htext _ hrest =>
      have hcell := hclean cell List.mem_cons_self
      rw [List.map_cons, List.map_cons, List.map_cons,
        ih hrest fun c hc => hclean c (List.mem_cons_of_mem _ hc),
        cellSource_of_spells (spells_stripSpaces hcell htext) hcell]

theorem noBar_of_parts (hpadded : Padded cells texts) (h : Parts source texts parts)
    (hcut : ∀ part ∈ parts, Uncut part.1)
    (hpipes : ∀ cell ∈ cells, plainPipes cell.toList = cell.toList) :
    ∀ cell ∈ cells, '|' ∉ cell.toList := by
  induction hpadded generalizing parts with
  | nil => exact fun _ hc => by cases hc
  | cons cell a b _ ih =>
    cases h with
    | cons htext _ hrest =>
      have hcell : '|' ∉ cell.toList :=
        noBar_of_uncut (hcut _ List.mem_cons_self) (hpipes cell List.mem_cons_self) htext
      have hcells := ih hrest (fun p hp => hcut p (List.mem_cons_of_mem _ hp))
        fun c hc => hpipes c (List.mem_cons_of_mem _ hc)
      intro c hc
      rcases List.mem_cons.mp hc with rfl | hc
      · exact hcell
      · exact hcells c hc

/-- The cells of a line as they are read back. -/
def rowTexts (source : List Char) (scope : Scope) (definitions : List Definition) (line : Line) :
    List String :=
  (rowNode scope definitions line).cells.map (cellSource source)

theorem rowTexts_eq (source : List Char) (scope : Scope) (definitions : List Definition)
    (line : Line) :
    rowTexts source scope definitions line =
      ((Markdown.rowCells line.glyphs).map (·.text)).map fun gs =>
        cellSource source (cellNode scope definitions ⟨0, 0⟩ gs) := by
  have hcells : (rowNode scope definitions line).cells =
      (rowNode scope definitions line).children := by
    unfold Tree.Node.cells rowNode
    rw [List.filter_eq_self]
    intro node hnode
    obtain ⟨part, -, rfl⟩ := List.mem_map.mp hnode
    rfl
  unfold rowTexts
  rw [hcells, rowNode, List.map_map, List.map_map]
  rfl

theorem Padded.barred (hpadded : Padded cells texts) (h : Parts source texts parts) :
    Markdown.Barred parts :=
  h.barred fun text htext c hc => by
    rw [hpadded.last_eq htext hc]
    decide

/-- No bar cuts the text of a plain cell. -/
theorem Padded.uncut (hpadded : Padded cells texts) (h : Parts source texts parts)
    (hplain : ∀ cell ∈ cells, Plain cell) : ∀ part ∈ parts, Uncut part.1 := by
  intro part hpart
  obtain ⟨text, htext, hspells, -⟩ := h.exists_text hpart
  refine Markdown.uncut_of_noBar hspells ?_
  obtain ⟨cell, hcell, a, b, rfl⟩ := hpadded.exists_cell htext
  have hspace : ∀ n, '|' ∉ List.replicate n ' ' := fun n hmem =>
    absurd (List.eq_of_mem_replicate hmem) (by decide)
  simp only [List.mem_append, not_or]
  exact ⟨hspace _, (hplain cell hcell).1, hspace _⟩

/-- **A row is read back as it was written exactly if its cells are plain.** -/
theorem rowTexts_iff (hpadded : Padded cells texts) (hclean : ∀ cell ∈ cells, Clean cell)
    (hne : cells ≠ []) {line : Line} (hline : Spells source (barredText texts) line.glyphs)
    (scope : Scope) (definitions : List Definition) :
    rowTexts source scope definitions line = cells ↔ ∀ cell ∈ cells, Plain cell := by
  obtain ⟨first, parts, hgs, hfirst, hparts⟩ := hline.exists_parts
  have hbarred := hpadded.barred hparts
  have hlength : parts.length = cells.length := hparts.length_eq.trans hpadded.length_eq
  have hne' : parts ≠ [] := by
    rintro rfl
    exact hne (List.eq_nil_of_length_eq_zero hlength.symm)
  have hread : (∀ part ∈ parts, Uncut part.1) →
      rowTexts source scope definitions line = cells.map readBack := by
    intro hcut
    rw [rowTexts_eq, hgs, Markdown.texts_of_uncut hfirst hbarred hcut hne']
    exact readBack_parts hpadded hparts hclean scope definitions ⟨0, 0⟩
  constructor
  · intro hrow
    have hcells : (Markdown.rowCells line.glyphs).length = parts.length := by
      rw [hlength, ← hrow, rowTexts_eq, List.length_map, List.length_map]
    rw [hgs] at hcells
    have hcut := (Markdown.length_rowCells_iff hfirst hbarred hne').mp hcells
    have hback : ∀ cell ∈ cells, readBack cell = cell := by
      rw [hread hcut] at hrow
      exact List.map_inj_left.mp (hrow.trans (List.map_id cells).symm)
    have hbars := noBar_of_parts hpadded hparts hcut fun cell hcell =>
      (of_readBack (hback cell hcell)).2
    exact fun cell hcell => ⟨hbars cell hcell, (of_readBack (hback cell hcell)).1⟩
  · intro hplain
    have hback : cells.map readBack = cells.map id :=
      List.map_inj_left.mpr fun cell hcell => readBack_of_plain (hplain cell hcell)
    rw [hread (hpadded.uncut hparts hplain), hback, List.map_id]

theorem Padded.oneLine (h : Padded cells texts) (hclean : ∀ cell ∈ cells, Clean cell) :
    ∀ text ∈ texts, OneLine text := by
  intro text htext c hc
  obtain ⟨cell, hcell, a, b, rfl⟩ := h.exists_cell htext
  have hspace : ∀ {n}, c ∈ List.replicate n ' ' → c ≠ '\n' ∧ c ≠ '\r' := by
    intro n hmem
    rw [List.eq_of_mem_replicate hmem]
    decide
  simp only [List.mem_append] at hc
  rcases hc with hc | hc | hc
  · exact hspace hc
  · exact (hclean cell hcell).1 c hc
  · exact hspace hc

end Rows

/-! ### Tables -/

theorem clean_columns : ∀ column ∈ columns, Clean column := by decide

theorem plain_columns : ∀ column ∈ columns, Plain column := by decide

section Tables

variable {rows : List (List String)} {widths : List Nat} {lines : List Line}

/-- The rows that lines are read back as are those that they spell exactly if all cells are
plain. -/
theorem rows_iff (hrows : ∀ row ∈ rows, row.length = columns.length)
    (hclean : ∀ row ∈ rows, ∀ cell ∈ row, Clean cell) (hwidths : widths.length = columns.length)
    (h : Lines source (rows.map fun row => (rowLine widths row).toList) lines) (scope : Scope)
    (definitions : List Definition) :
    lines.map (rowTexts source scope definitions) = rows ↔
      ∀ row ∈ rows, ∀ cell ∈ row, Plain cell := by
  induction rows generalizing lines with
  | nil =>
    cases h
    exact ⟨fun _ _ hrow => (by cases hrow), fun _ => rfl⟩
  | cons row rows ih =>
    rw [List.map_cons] at h
    cases h with
    | @cons _ _ line lines hline _ hrest =>
      have hrow := hrows row List.mem_cons_self
      have hpadded : Padded row (cellTexts columns widths row) :=
        padded_cellTexts hrow.symm (hwidths.trans hrow.symm)
      have hne : row ≠ [] := by
        rintro rfl
        cases hrow
      rw [toList_rowLine hwidths hrow] at hline
      have hhead := rowTexts_iff hpadded (hclean row List.mem_cons_self) hne hline scope definitions
      have htail := ih (fun r hr => hrows r (List.mem_cons_of_mem _ hr))
        (fun r hr => hclean r (List.mem_cons_of_mem _ hr)) hrest
      rw [List.map_cons, List.cons_eq_cons, hhead, htail]
      exact (List.forall_mem_cons (p := fun r : List String => ∀ cell ∈ r, Plain cell)).symm

/-- No line of a written index is broken. -/
theorem oneLine_lineTexts (hrows : ∀ row ∈ rows, row.length = columns.length)
    (hclean : ∀ row ∈ rows, ∀ cell ∈ row, Clean cell) :
    ∀ text ∈ lineTexts rows, OneLine text := by
  have hline : ∀ row : List String, row.length = columns.length → (∀ cell ∈ row, Clean cell) →
      OneLine (rowLine (Index.widths rows) row).toList := by
    intro row hrow hcells
    have hwidths := length_widths rows
    rw [toList_rowLine hwidths hrow]
    exact Markdown.oneLine_barredText
      ((padded_cellTexts hrow.symm (hwidths.trans hrow.symm)).oneLine hcells)
  have hrule : OneLine (ruleLine (Index.widths rows)).toList := by
    rw [toList_ruleLine (length_widths rows)]
    refine Markdown.oneLine_barredText fun text htext c hc => ?_
    obtain ⟨p, -, rfl⟩ := List.mem_map.mp htext
    rcases mem_ruleText hc with rfl | rfl <;> decide
  intro text htext
  rw [lineTexts_eq, List.mem_cons, List.mem_cons, List.mem_map] at htext
  rcases htext with htext | htext | ⟨row, hrow, htext⟩
  · rw [htext]
    exact hline columns rfl clean_columns
  · rw [htext]
    exact hrule
  · rw [← htext]
    exact hline row (hrows row hrow) (hclean row hrow)

/-- The line below the head has a delimiter for each column. -/
theorem delimiterCount?_ruleLine (hwidths : widths.length = columns.length) {rule : Line}
    (h : Spells source (ruleLine widths).toList rule.glyphs) :
    Markdown.delimiterCount? rule.glyphs = some columns.length := by
  rw [toList_ruleLine hwidths] at h
  obtain ⟨first, parts, hgs, hfirst, hparts⟩ := h.exists_parts
  have hlength : parts.length = columns.length := by
    rw [hparts.length_eq, List.length_map, List.length_zip, hwidths, Nat.min_self]
  have hne : parts ≠ [] := by
    rintro rfl
    cases hlength
  have hcount := Markdown.delimiterCount?_rowGlyphs hfirst hparts hne
    (fun text htext => by
      obtain ⟨p, -, rfl⟩ := List.mem_map.mp htext
      exact isDelimiter_ruleText p.1 p.2)
    (fun text htext c hc => by
      obtain ⟨p, -, rfl⟩ := List.mem_map.mp htext
      exact mem_ruleText hc)
  rw [hgs, hcount, hlength]

/-- The line of the columns is the head of a table with as many. -/
theorem isHeadOf_rowLine (hwidths : widths.length = columns.length) {head : Line}
    (h : Spells source (rowLine widths columns).toList head.glyphs) :
    Markdown.isHeadOf columns.length head.glyphs = true := by
  have hpadded : Padded columns (cellTexts columns widths columns) := padded_cellTexts rfl hwidths
  rw [toList_rowLine hwidths rfl] at h
  obtain ⟨first, parts, hgs, hfirst, hparts⟩ := h.exists_parts
  have hlength : parts.length = columns.length := hparts.length_eq.trans hpadded.length_eq
  have hne : parts ≠ [] := by
    rintro rfl
    cases hlength
  have hhead := Markdown.isHeadOf_rowGlyphs hfirst (hpadded.barred hparts) hne
    (hpadded.uncut hparts plain_columns)
  rw [hgs, ← hlength]
  exact hhead

/-- A written index is read back as a table with the columns of the index. -/
theorem exists_parse {entries : List Entry} (hclean : ∀ e ∈ entries, ∀ cell ∈ e.cells, Clean cell) :
    ∃ scope definitions lines,
      Lines (markdownText entries).toList ((entries.map Entry.cells).map fun row =>
        (rowLine (Index.widths (entries.map Entry.cells)) row).toList) lines ∧
      Table.parse (markdownText entries) =
        .ok ⟨columns, lines.map (rowTexts (markdownText entries).toList scope definitions)⟩ := by
  have hwidths := length_widths (entries.map Entry.cells)
  have hone : ∀ text ∈ lineTexts (entries.map Entry.cells), OneLine text :=
    oneLine_lineTexts
      (fun row hrow => by
        obtain ⟨e, -, rfl⟩ := List.mem_map.mp hrow
        rfl)
      (fun row hrow => by
        obtain ⟨e, he, rfl⟩ := List.mem_map.mp hrow
        exact hclean e he)
  have hmark : ∀ r,
      (lineTexts (entries.map Entry.cells)).flatMap (· ++ ['\n']) ≠ '\ufeff' :: r := by
    intro r hr
    rw [lineTexts_eq, List.flatMap_cons, toList_rowLine hwidths rfl, barredText, List.cons_append,
      List.cons_append] at hr
    exact absurd (List.cons.inj hr).1 (by decide)
  have hlines := Markdown.sourceLines_texts hone hmark
  rw [← toList_markdownText, lineTexts_eq] at hlines
  obtain ⟨head, below, hbelow, hhead, hrest⟩ := hlines.exists_cons
  obtain ⟨rule, lines, rfl, hrule, hrows⟩ := hrest.exists_cons
  have hbars : ∀ line ∈ lines, Markdown.StartsWithBar line := by
    intro line hline
    obtain ⟨text, htext, hspells⟩ := hrows.exists_text hline
    obtain ⟨row, hrow, rfl⟩ := List.mem_map.mp htext
    obtain ⟨e, -, rfl⟩ := List.mem_map.mp hrow
    have hlength : e.cells.length = columns.length := rfl
    rw [toList_rowLine hwidths hlength] at hspells
    exact Markdown.startsWithBar_of_spells hspells
  have hheadBar : Markdown.StartsWithBar head := by
    rw [toList_rowLine hwidths rfl] at hhead
    exact Markdown.startsWithBar_of_spells hhead
  have hruleBar : Markdown.StartsWithBar rule := by
    rw [toList_ruleLine hwidths] at hrule
    exact Markdown.startsWithBar_of_spells hrule
  obtain ⟨start, stop, hblocks⟩ := Markdown.blocksOf_table hbelow hheadBar hruleBar hbars
    (delimiterCount?_ruleLine hwidths hrule) (isHeadOf_rowLine hwidths hhead)
  obtain ⟨scope, definitions, table, rest, htables, hchildren⟩ := Markdown.findAll_table hblocks
  refine ⟨scope, definitions, lines, hrows, ?_⟩
  have hsource : Table.sourceRows (markdownText entries).toList table =
      (head :: lines).map (rowTexts (markdownText entries).toList scope definitions) := by
    have hfilter : table.children.filter (·.kind == .tableRow) = table.children := by
      rw [List.filter_eq_self, hchildren]
      intro node hnode
      obtain ⟨line, -, rfl⟩ := List.mem_map.mp hnode
      rfl
    unfold Table.sourceRows
    rw [hfilter, hchildren, List.map_map]
    rfl
  have hcolumns : rowTexts (markdownText entries).toList scope definitions head = columns := by
    rw [toList_rowLine hwidths rfl] at hhead
    exact (rowTexts_iff (padded_cellTexts rfl hwidths) clean_columns (List.cons_ne_nil _ _) hhead
      scope definitions).mpr plain_columns
  have hidentifier : columns.contains identifierColumn = true := by decide
  unfold Table.parse Table.ofTree
  rw [htables]
  simp only [hsource, List.map_cons, hcolumns, hidentifier, if_true]

end Tables

/-- The rows of a written index are read back as they were written exactly if all cells are
plain. -/
theorem exists_rows {entries : List Entry} (hclean : ∀ e ∈ entries, ∀ cell ∈ e.cells, Clean cell) :
    ∃ rows, Table.parse (render .markdown entries) = .ok ⟨columns, rows⟩ ∧
      rows.length = entries.length ∧
      (rows = entries.map Entry.cells ↔ ∀ e ∈ entries, ∀ cell ∈ e.cells, Plain cell) := by
  obtain ⟨scope, definitions, lines, hlines, hparse⟩ := exists_parse hclean
  have hcells : ∀ row ∈ entries.map Entry.cells, row.length = columns.length :=
    List.forall_mem_map.mpr fun _ _ => rfl
  have hrows := rows_iff hcells (List.forall_mem_map.mpr hclean) (length_widths _) hlines scope
    definitions
  rw [List.forall_mem_map] at hrows
  refine ⟨_, hparse, ?_, hrows⟩
  rw [List.length_map, hlines.length_eq, List.length_map, List.length_map]

/-- **A written index is read back as its entries exactly if all cells are plain**, and is then no
different from them. It is always read back, with the columns of the index and a row for each
entry. -/
theorem parse_render {entries : List Entry}
    (hclean : ∀ e ∈ entries, ∀ cell ∈ e.cells, Clean cell) :
    ∃ table, Table.parse (render .markdown entries) = .ok table ∧ table.columns = columns ∧
      table.rows.length = entries.length ∧
      ((table = Table.ofEntries entries ∧
          (compare table (Table.ofEntries entries)).hasDifferences = false) ↔
        ∀ e ∈ entries, ∀ cell ∈ e.cells, Plain cell) := by
  obtain ⟨rows, hparse, hlength, hrows⟩ := exists_rows hclean
  refine ⟨⟨columns, rows⟩, hparse, rfl, hlength, ?_, ?_⟩
  · rintro ⟨htable, -⟩
    exact hrows.mp (congrArg Table.rows htable)
  · intro hplain
    have htable : (⟨columns, rows⟩ : Table) = Table.ofEntries entries :=
      congrArg (Table.mk columns) (hrows.mpr hplain)
    rw [htable]
    exact ⟨rfl, compare_self _⟩

/-- An entry with backslashes that escape nothing. -/
def shareEntry : Entry :=
  ⟨"[share](docs/share.md)", "ID1", "v1.0", "Data\\Access", "SOP", "\\node", "v2.1", 3,
    "2024.05.17"⟩

theorem parse_render_shareEntry :
    (∀ e ∈ [shareEntry], ∀ cell ∈ e.cells, Clean cell) ∧
      Table.parse (render .markdown [shareEntry]) = .ok (Table.ofEntries [shareEntry]) := by
  have hclean : ∀ e ∈ [shareEntry], ∀ cell ∈ e.cells, Clean cell := by decide +kernel
  have hplain : ∀ e ∈ [shareEntry], ∀ cell ∈ e.cells, Plain cell := by decide +kernel
  obtain ⟨table, hparse, -, -, hiff⟩ := parse_render hclean
  obtain ⟨rfl, -⟩ := hiff.mpr hplain
  exact ⟨hclean, hparse⟩

/-- An entry with a bar in its topic. -/
def barredEntry : Entry :=
  ⟨"[share](docs/share.md)", "ID1", "v1.0", "Data|Access", "SOP", "none", "v2.1", 3, "2024.05.17"⟩

/-- An entry whose topic starts with an escape. -/
def escapedEntry : Entry :=
  ⟨"[share](docs/share.md)", "ID1", "v1.0", "\\*Access", "SOP", "none", "v2.1", 3, "2024.05.17"⟩

/-- Neither bars nor escapes are written so that they are read back. -/
theorem parse_render_lossy :
    ((∀ cell ∈ barredEntry.cells, Clean cell) ∧
        Table.parse (render .markdown [barredEntry]) ≠ .ok (Table.ofEntries [barredEntry])) ∧
      (∀ cell ∈ escapedEntry.cells, Clean cell) ∧
        Table.parse (render .markdown [escapedEntry]) ≠ .ok (Table.ofEntries [escapedEntry]) := by
  have hlossy : ∀ e : Entry, (∀ cell ∈ e.cells, Clean cell) → ¬ (∀ cell ∈ e.cells, Plain cell) →
      Table.parse (render .markdown [e]) ≠ .ok (Table.ofEntries [e]) := by
    intro e hclean hplain heq
    obtain ⟨rows, hparse, -, hrows⟩ := exists_rows (List.forall_mem_singleton.mpr hclean)
    rw [heq] at hparse
    have htable : Table.ofEntries [e] = ⟨columns, rows⟩ := Except.ok.inj hparse
    have hall := hrows.mp (congrArg Table.rows htable).symm
    exact hplain (hall e List.mem_cons_self)
  have hbarred : ∀ cell ∈ barredEntry.cells, Clean cell := by decide +kernel
  have hescaped : ∀ cell ∈ escapedEntry.cells, Clean cell := by decide +kernel
  exact ⟨⟨hbarred, hlossy _ hbarred (by decide +kernel)⟩, hescaped,
    hlossy _ hescaped (by decide +kernel)⟩

end SopDocs.Index
