import SopDocs.Proofs.Lint.HistoryOrder

/-!
# What an accepted history tells about the newest date

The rule asks of a date cell that it starts like a date. Reading the newest date asks more:
the whole cell must be the written form of a day of the calendar. So an accepted history
with a row always leads to a cell, and the cell alone decides whether it is a date.
-/

namespace SopDocs.Lint

/-- Where the newest row has five cells, its last cell is what is read as a date. -/
theorem mostRecentDate_eq {root : Tree.Node} {table : Tree.Node}
    {template instanceCell author description cell : String} {rest : List Tree.Row}
    (htable : Tree.tableWith? Tree.historyHeader root = some table)
    (hrows : History.rows table = [template, instanceCell, author, description, cell] :: rest)
    (label : String) :
    History.mostRecentDate root label =
      (Date.parse? cell).elim (.error (.invalidHistoryDate cell label)) .ok := by
  have hcell : History.newestDate root label = .ok cell := by
    unfold History.newestDate
    rw [htable]
    simp only [hrows]
  unfold History.mostRecentDate
  simp only [hcell]
  cases Date.parse? cell <;> rfl

theorem exists_newestRow {ctx : Context} {strict : Bool} {table : Tree.Node}
    (htable : Tree.tableWith? Tree.historyHeader ctx.root = some table)
    (hrows : table.bodyRows ≠ [])
    (hsilent : (Rule.documentHistory.check ctx strict .empty).isEmpty = true) :
    ∃ template instanceCell author description cell rest,
      History.rows table = [template, instanceCell, author, description, cell] :: rest ∧
      Date.StartsWithDate cell := by
  rw [isEmpty_check_documentHistory htable] at hsilent
  obtain ⟨versions, hsound, -⟩ := hsilent
  cases hcells : History.rows table with
  | nil => exact absurd (List.map_eq_nil_iff.mp hcells) hrows
  | cons row rest =>
    rw [hcells] at hsound
    obtain ⟨v, others, hrow, -, -⟩ := List.forall₂_cons_left_iff.mp hsound
    obtain ⟨-, -, -, -, hdate⟩ := hrow
    exact ⟨_, _, _, _, _, rest, rfl, hdate⟩

/-- **The newest date of an accepted history is read exactly if its cell is the written form
of a day.** The cell is always found; if it is not such a form, the failure names it. -/
theorem mostRecentDate_of_silent (ctx : Context) (strict : Bool) (label : String)
    {table : Tree.Node}
    (htable : Tree.tableWith? Tree.historyHeader ctx.root = some table)
    (hrows : table.bodyRows ≠ [])
    (hsilent : (Rule.documentHistory.check ctx strict .empty).isEmpty = true) :
    ∃ template instanceCell author description cell rest,
      History.rows table = [template, instanceCell, author, description, cell] :: rest ∧
      Date.StartsWithDate cell ∧
      (∀ d, History.mostRecentDate ctx.root label = .ok d ↔ d.Writable ∧ cell = d.text) ∧
      ((¬ ∃ d : Date, d.Writable ∧ cell = d.text) →
        History.mostRecentDate ctx.root label = .error (.invalidHistoryDate cell label)) := by
  obtain ⟨template, instanceCell, author, description, cell, rest, hnewest, hdate⟩ :=
    exists_newestRow htable hrows hsilent
  refine ⟨template, instanceCell, author, description, cell, rest, hnewest, hdate, ?_, ?_⟩
  · intro d
    rw [mostRecentDate_eq htable hnewest, ← Date.parse?_eq_some_iff]
    cases Date.parse? cell <;> simp
  · intro hnone
    have hparse : Date.parse? cell = none := by
      rw [Option.eq_none_iff_forall_ne_some]
      intro d hd
      exact hnone ⟨d, Date.parse?_eq_some_iff.mp hd⟩
    rw [mostRecentDate_eq htable hnewest, hparse, Option.elim_none]

/-- A document with one row in its history, dated by the given cell. -/
def datedDocument (cell : String) : Context where
  path := ⟨"european-level/GDI-SOP0003_review.md"⟩
  root := ⟨.document, ⟨0, 0⟩, none, .none, [
    textTable [Tree.historyHeader, ["v1.0", "", "A", "First version", cell]]]⟩
  conventions := .ofConfig .standard
  inputs := []
  charter := .empty
  found := fun _ => false
  probe := none

theorem mostRecentDate_of_silent_leapDay :
    ∃ table, Tree.tableWith? Tree.historyHeader (datedDocument "2024.02.29").root = some table ∧
      table.bodyRows ≠ [] ∧
      (Rule.documentHistory.check (datedDocument "2024.02.29") true .empty).isEmpty = true ∧
      History.mostRecentDate (datedDocument "2024.02.29").root "review.md" = .ok ⟨2024, 2, 29⟩ := by
  have hcells : (Tree.tableWith? Tree.historyHeader (datedDocument "2024.02.29").root).map
      History.rows = some [["v1.0", "", "A", "First version", "2024.02.29"]] := by decide +kernel
  have hsilent : (Rule.documentHistory.check (datedDocument "2024.02.29") true .empty).isEmpty =
      true := by decide +kernel
  obtain ⟨table, htable, hrows⟩ := Option.map_eq_some_iff.mp hcells
  have hbody : table.bodyRows ≠ [] := by
    intro hnil
    rw [History.rows, hnil] at hrows
    cases hrows
  obtain ⟨_, _, _, _, cell, _, hnewest, -, hread, -⟩ :=
    mostRecentDate_of_silent (datedDocument "2024.02.29") true "review.md" htable hbody hsilent
  have hcell : cell = "2024.02.29" := by
    rw [hrows] at hnewest
    cases hnewest
    rfl
  have hday : Date.Writable ⟨2024, 2, 29⟩ := ⟨by decide, by decide⟩
  exact ⟨table, htable, hbody, hsilent, (hread _).mpr ⟨hday, hcell.trans (by decide +kernel)⟩⟩

/-- A document dated by the cell is accepted, and yet no date is read from it. -/
def AcceptedUndated (cell : String) : Prop :=
  (Tree.tableWith? Tree.historyHeader (datedDocument cell).root).map (·.bodyRows.length) = some 1 ∧
  (Rule.documentHistory.check (datedDocument cell) true .empty).isEmpty = true ∧
  ∃ failure, History.mostRecentDate (datedDocument cell).root "review.md" = .error failure

/-- Neither a day that no month has, nor a note after the date, nor digits of another script are
kept out by the rule. -/
theorem acceptedUndated_cells :
    AcceptedUndated "2024.02.30" ∧ AcceptedUndated "2024.02.29 (draft)" ∧
      AcceptedUndated "２０２４.０２.２９" := by
  refine ⟨⟨?_, ?_, .invalidHistoryDate "2024.02.30" "review.md", ?_⟩,
    ⟨?_, ?_, .invalidHistoryDate "2024.02.29 (draft)" "review.md", ?_⟩,
    ⟨?_, ?_, .invalidHistoryDate "２０２４.０２.２９" "review.md", ?_⟩⟩ <;> decide +kernel

end SopDocs.Lint
