import SopDocs.Proofs.Index.Comparison
import SopDocs.Proofs.Index.Difference

/-!
# Which columns a comparison looks at

A comparison goes through the columns of the existing table. A column that the new table does
not have counts there as empty, so what stands in it is told as a difference; a column that
only the new table has is not looked at. Two tables with any columns are therefore found equal
if they agree where they can be compared and the existing table has no text of its own, and
the new one may have any.
-/

namespace SopDocs.Index

variable {existing new s t : Table}

namespace Table

/-- The text that a table has for an identifier in a column; a column that it does not have
counts as empty. -/
def Shows (t : Table) (identifier column text : String) : Prop :=
  ∃ row ∈ t.rows, t.RowHas row identifierColumn identifier ∧
    (t.RowHas row column text ∨ column ∉ t.columns ∧ text = "")

/-- Each row and each column of a table is found in another one, with the same texts. -/
def FoundIn (t other : Table) : Prop :=
  ∀ identifier column text,
    t.Holds identifier column text → other.Shows identifier column text

/-- Nothing stands in the columns that only the first table has. -/
def SurplusEmpty (t other : Table) : Prop :=
  ∀ identifier column text,
    t.Holds identifier column text → column ∉ other.columns → text = ""

/-- The tables list the same identifiers and have the same texts in the columns of both. -/
structure Agree (s t : Table) : Prop where
  identifiers : ∀ identifier, s.Lists identifier ↔ t.Lists identifier
  texts : ∀ identifier column old current,
    s.Holds identifier column old → t.Holds identifier column current → old = current

theorem Agree.symm (h : Agree s t) : Agree t s where
  identifiers := fun identifier => (h.identifiers identifier).symm
  texts := fun _ _ _ _ ht hs => (h.texts _ _ _ _ hs ht).symm

/-! ### Cells of any column -/

theorem cell_eq_empty {row : List String} {column : String} (h : column ∉ t.columns) :
    t.cell row column = "" := by
  unfold cell
  rw [List.findIdx?_eq_none_iff.mpr]
  intro other hother
  rw [beq_eq_false_iff_ne]
  rintro rfl
  exact h hother

namespace Keyed

theorem shows_iff (h : t.Keyed) {identifier column text : String} :
    t.Shows identifier column text ↔
      ∃ row, Sorted.get? identifier t.byIdentifier = some row ∧ t.cell row column = text := by
  have hcell : ∀ row, (t.RowHas row column text ∨ column ∉ t.columns ∧ text = "") ↔
      t.cell row column = text := by
    intro row
    rw [h.rowHas_iff]
    by_cases hcolumn : column ∈ t.columns
    · simp [hcolumn]
    · simp [hcolumn, cell_eq_empty hcolumn, eq_comm]
  unfold Shows
  simp only [h.rowHas_identifier_iff, h.get?_byIdentifier, hcell, and_assoc]

theorem lists_of_shows (h : t.Keyed) {identifier column text : String}
    (hshows : t.Shows identifier column text) : t.Lists identifier := by
  obtain ⟨row, hrow, -⟩ := h.shows_iff.mp hshows
  obtain ⟨hmem, hidentifier⟩ := h.get?_byIdentifier.mp hrow
  exact ⟨row, hmem, h.rowHas_identifier_iff.mpr hidentifier⟩

/-- A table is found in another one that lists its identifiers and agrees on the columns of
both, unless it has text in columns of its own. -/
theorem foundIn_iff (hs : s.Keyed) (ht : t.Keyed) :
    s.FoundIn t ↔ (∀ identifier, s.Lists identifier → t.Lists identifier) ∧
      (∀ identifier column old current,
        s.Holds identifier column old → t.Holds identifier column current → old = current) ∧
      s.SurplusEmpty t := by
  constructor
  · intro hfound
    refine ⟨fun identifier hlists => ?_, fun identifier column old current hold hcurrent => ?_,
      fun identifier column text hholds hcolumn => ?_⟩
    · obtain ⟨text, hholds⟩ := hs.exists_holds hlists hs.identified
      exact ht.lists_of_shows (hfound _ _ _ hholds)
    · obtain ⟨row, hrow, rfl⟩ := ht.shows_iff.mp (hfound _ _ _ hold)
      obtain ⟨row', hrow', -, rfl⟩ := ht.holds_iff.mp hcurrent
      rw [Option.some.inj (hrow.symm.trans hrow')]
    · obtain ⟨row, -, rfl⟩ := ht.shows_iff.mp (hfound _ _ _ hholds)
      exact cell_eq_empty hcolumn
  · rintro ⟨hlists, hagree, hsurplus⟩ identifier column text hholds
    have hlisted := hlists identifier (lists_of_holds hholds)
    by_cases hcolumn : column ∈ t.columns
    · obtain ⟨current, hcurrent⟩ := ht.exists_holds hlisted hcolumn
      rw [hagree _ _ _ _ hholds hcurrent]
      obtain ⟨row, hrow, -, hcell⟩ := ht.holds_iff.mp hcurrent
      exact ht.shows_iff.mpr ⟨row, hrow, hcell⟩
    · obtain ⟨row, hmem, hidentifier⟩ := hlisted
      exact ⟨row, hmem, hidentifier, Or.inr ⟨hcolumn, hsurplus _ _ _ hholds hcolumn⟩⟩

theorem foundIn_iff_of_agree (hs : s.Keyed) (ht : t.Keyed) (h : Agree s t) :
    s.FoundIn t ↔ s.SurplusEmpty t := by
  rw [hs.foundIn_iff ht]
  constructor
  · rintro ⟨-, -, hsurplus⟩
    exact hsurplus
  · intro hsurplus
    exact ⟨fun identifier => (h.identifiers identifier).mp, h.texts, hsurplus⟩

end Keyed

end Table

/-! ### Tables with any columns -/

theorem differingColumns_eq_nil_iff (h : existing.columns.Nodup) {old current : List String} :
    differingColumns existing new old current = [] ↔
      ∀ column ∈ existing.columns, column ≠ identifierColumn →
        existing.cell old column = new.cell current column := by
  rw [List.eq_nil_iff_forall_not_mem]
  constructor
  · intro hnone column hcolumn hne
    by_cases heq : existing.cell old column = new.cell current column
    · exact heq
    · exact absurd ((mem_differingColumns h).mpr ⟨hcolumn, hne, rfl, rfl, heq⟩)
        (hnone (column, ⟨_, _⟩))
  · rintro hall ⟨column, d⟩ hmem
    obtain ⟨hcolumn, hne, hold, hcurrent, hdiffers⟩ := (mem_differingColumns h).mp hmem
    exact hdiffers (by rw [← hold, ← hcurrent, hall column hcolumn hne])

/-- No row is told to have changed if what the existing table says of the identifiers of both
is shown by the new one. -/
theorem changedRows_eq_nil_iff_shows (he : existing.Keyed) (hn : new.Keyed) :
    changedRows existing new = [] ↔ ∀ identifier column text, new.Lists identifier →
      existing.Holds identifier column text → new.Shows identifier column text := by
  rw [List.eq_nil_iff_forall_not_mem]
  constructor
  · intro hnone identifier column text hlists hholds
    obtain ⟨old, hold, hcolumn, rfl⟩ := he.holds_iff.mp hholds
    obtain ⟨current, hcurrent⟩ := Option.isSome_iff_exists.mp (hn.lists_iff.mp hlists)
    refine hn.shows_iff.mpr ⟨current, hcurrent, ?_⟩
    by_cases hne : column = identifierColumn
    · subst hne
      -- Both rows were found by this identifier.
      exact (hn.get?_byIdentifier.mp hcurrent).2.trans (he.get?_byIdentifier.mp hold).2.symm
    · have hsame : differingColumns existing new old current = [] := by
        by_cases hnil : differingColumns existing new old current = []
        · exact hnil
        · exact absurd (mem_changedRows.mpr ⟨hnil, old, current, hold, hcurrent, rfl⟩)
            (hnone (identifier, _))
      exact ((differingColumns_eq_nil_iff he.distinct).mp hsame column hcolumn hne).symm
  · rintro hshows ⟨identifier, differing⟩ hmem
    obtain ⟨hne, old, current, hold, hcurrent, rfl⟩ := mem_changedRows.mp hmem
    refine hne ((differingColumns_eq_nil_iff he.distinct).mpr fun column hcolumn _ => ?_)
    have hlists : new.Lists identifier :=
      hn.lists_iff.mpr (Option.isSome_iff_exists.mpr ⟨current, hcurrent⟩)
    obtain ⟨row, hrow, hcell⟩ := hn.shows_iff.mp (hshows identifier column _ hlists
      (he.holds_iff.mpr ⟨old, hold, hcolumn, rfl⟩))
    rw [← hcell, Option.some.inj (hrow.symm.trans hcurrent)]

/-- A comparison tells of no difference if and only if both tables list the same identifiers
and the existing one is found in the new one. -/
theorem hasDifferences_eq_false_iff_foundIn (he : existing.Keyed) (hn : new.Keyed) :
    (compare existing new).hasDifferences = false ↔
      (∀ identifier, existing.Lists identifier ↔ new.Lists identifier) ∧
        existing.FoundIn new := by
  rw [hasDifferences_eq_false_iff, differences_eq_parts, List.append_eq_nil_iff, List.append_eq_nil_iff,
    List.append_eq_nil_iff, List.map_eq_nil_iff, List.map_eq_nil_iff, List.map_eq_nil_iff,
    missingRows_eq_nil_iff he hn, missingRows_eq_nil_iff hn he,
    changedRows_eq_nil_iff_shows he hn]
  constructor
  · rintro ⟨⟨⟨-, hgone⟩, hadded⟩, hshows⟩
    exact ⟨fun identifier => ⟨hgone identifier, hadded identifier⟩,
      fun identifier column text hholds =>
        hshows _ _ _ (hgone identifier (Table.lists_of_holds hholds)) hholds⟩
  · rintro ⟨hlists, hfound⟩
    exact ⟨⟨⟨if_pos (he.length_eq hn hlists), fun identifier => (hlists identifier).mp⟩,
      fun identifier => (hlists identifier).mpr⟩,
      fun identifier column text _ hholds => hfound _ _ _ hholds⟩

theorem hasDifferences_eq_false_iff_agree (he : existing.Keyed) (hn : new.Keyed) :
    (compare existing new).hasDifferences = false ↔
      Table.Agree existing new ∧ existing.SurplusEmpty new := by
  rw [hasDifferences_eq_false_iff_foundIn he hn, he.foundIn_iff hn]
  constructor
  · rintro ⟨hlists, -, htexts, hsurplus⟩
    exact ⟨⟨hlists, htexts⟩, hsurplus⟩
  · rintro ⟨hagree, hsurplus⟩
    exact ⟨hagree.identifiers, fun identifier => (hagree.identifiers identifier).mp,
      hagree.texts, hsurplus⟩

/-- **A comparison without a difference covers the new table if and only if nothing stands in
the columns that only the new table has.** Under the same condition, and no other, the tables
are found equal the other way round as well. -/
theorem compare_covers_iff (he : existing.Keyed) (hn : new.Keyed) :
    ((compare existing new).hasDifferences = false ↔
      Table.Agree existing new ∧ existing.SurplusEmpty new) ∧
    ((compare existing new).hasDifferences = false →
      (new.FoundIn existing ↔ new.SurplusEmpty existing) ∧
      ((compare new existing).hasDifferences = false ↔ new.SurplusEmpty existing)) := by
  refine ⟨hasDifferences_eq_false_iff_agree he hn, fun hclean => ?_⟩
  obtain ⟨hagree, -⟩ := (hasDifferences_eq_false_iff_agree he hn).mp hclean
  refine ⟨hn.foundIn_iff_of_agree he hagree.symm, ?_⟩
  rw [hasDifferences_eq_false_iff_agree hn he]
  exact and_iff_right hagree.symm

/-- An index whose rows end before a column of notes. -/
def unnotedIndex : Table where
  columns := ["Topic", "Identifier", "Notes"]
  rows := [["Helpdesk", "S2"], ["Access", "S1", ""]]

/-- An index without a column for notes. -/
def plainIndex : Table where
  columns := ["Identifier", "Topic"]
  rows := [["S1", "Access"], ["S2", "Helpdesk"]]

/-- The index with a column for the number of steps. -/
def steppedIndex : Table where
  columns := ["Identifier", "Topic", "Steps"]
  rows := [["S1", "Access", "3"], ["S2", "Helpdesk", "1"]]

theorem compare_covers_iff_unnotedIndex :
    plainIndex.Keyed ∧ unnotedIndex.Keyed ∧
    (compare plainIndex unnotedIndex).hasDifferences = false ∧
    unnotedIndex.FoundIn plainIndex ∧
    (compare unnotedIndex plainIndex).hasDifferences = false := by
  have hplain : plainIndex.Keyed :=
    ⟨by decide, by decide, "existing", Table.checkDuplicates_eq_ok_iff.mpr (by decide)⟩
  have hunnoted : unnotedIndex.Keyed :=
    ⟨by decide, by decide, "new", Table.checkDuplicates_eq_ok_iff.mpr (by decide)⟩
  have hclean : (compare plainIndex unnotedIndex).hasDifferences = false := by decide +kernel
  have hback : (compare unnotedIndex plainIndex).hasDifferences = false := by decide +kernel
  obtain ⟨-, hcovers⟩ := compare_covers_iff hplain hunnoted
  obtain ⟨hfound, hswapped⟩ := hcovers hclean
  exact ⟨hplain, hunnoted, hclean, hfound.mpr (hswapped.mp hback), hback⟩

/-- A column that only the new table has is passed over, and told of the other way round. -/
theorem steppedIndex_passed_over :
    plainIndex.Keyed ∧ steppedIndex.Keyed ∧
    (compare plainIndex steppedIndex).hasDifferences = false ∧
    ¬ steppedIndex.FoundIn plainIndex ∧
    (compare steppedIndex plainIndex).differences =
      [.columns "S1" [("Steps", ⟨"3", ""⟩)], .columns "S2" [("Steps", ⟨"1", ""⟩)]] := by
  refine ⟨⟨by decide, by decide, "existing", Table.checkDuplicates_eq_ok_iff.mpr (by decide)⟩,
    ⟨by decide, by decide, "new", Table.checkDuplicates_eq_ok_iff.mpr (by decide)⟩,
    by decide +kernel, fun hfound => ?_, by decide +kernel⟩
  have hsteps : steppedIndex.Holds "S1" "Steps" "3" :=
    ⟨["S1", "Access", "3"], by decide, ⟨0, by decide, by decide⟩, ⟨2, by decide, by decide⟩⟩
  obtain ⟨row, -, -, ⟨i, hcolumn, -⟩ | ⟨-, htext⟩⟩ := hfound _ _ _ hsteps
  · exact absurd (List.mem_of_getElem? hcolumn) (by decide)
  · exact absurd htext (by decide)

end SopDocs.Index
