import Mathlib.Data.List.NodupEquivFin
import SopDocs.Proofs.Index.TableMap

/-!
# Repeated identifiers are told exactly when rows would be lost

One pass over the rows finds what it has seen before, so it finds an identifier exactly if two rows
have it. A table by identifier has each identifier of the rows once, so it is as long as the rows
are many exactly if nothing is found.
-/

namespace SopDocs.Index.Table

/-- The identifier of a row is its cell in the first identifier column. A row that has no such cell
has the empty one. -/
def IdentifiedBy (t : Table) (row : List String) (identifier : String) : Prop :=
  (∃ before after, t.columns = before ++ identifierColumn :: after ∧ identifierColumn ∉ before ∧
    row.getD before.length "" = identifier) ∨
  identifierColumn ∉ t.columns ∧ identifier = ""

/-- Two rows have the same identifier. -/
def Repeats (t : Table) (identifier : String) : Prop :=
  ∃ (i j : Nat) (row other : List String), i < j ∧ t.rows[i]? = some row ∧
    t.rows[j]? = some other ∧ t.IdentifiedBy row identifier ∧ t.IdentifiedBy other identifier

variable {t : Table} {row : List String} {identifier : String}

/-! ### The identifier of a row -/

theorem identifier_of_columns {before after : List String}
    (hcolumns : t.columns = before ++ identifierColumn :: after)
    (hfirst : identifierColumn ∉ before) : t.identifier row = row.getD before.length "" := by
  have hbefore := findIdx?_eq_none_iff_not_mem.mpr hfirst
  have hfound : t.columns.findIdx? (· == identifierColumn) = some before.length := by
    rw [hcolumns, List.findIdx?_append, hbefore, List.findIdx?_cons, beq_self_eq_true]
    simp
  unfold identifier cell
  rw [hfound]

theorem identifier_of_not_mem (h : identifierColumn ∉ t.columns) : t.identifier row = "" := by
  unfold identifier cell
  rw [findIdx?_eq_none_iff_not_mem.mpr h]

theorem identifiedBy_iff : t.IdentifiedBy row identifier ↔ t.identifier row = identifier := by
  constructor
  · rintro (⟨before, after, hcolumns, hfirst, rfl⟩ | ⟨hnot, rfl⟩)
    · exact identifier_of_columns hcolumns hfirst
    · exact identifier_of_not_mem hnot
  · rintro rfl
    by_cases hmem : identifierColumn ∈ t.columns
    · obtain ⟨before, after, hcolumns, hfirst⟩ := List.eq_append_cons_of_mem hmem
      exact Or.inl ⟨before, after, hcolumns, hfirst, (identifier_of_columns hcolumns hfirst).symm⟩
    · exact Or.inr ⟨hmem, identifier_of_not_mem hmem⟩

theorem repeats_iff : t.Repeats identifier ↔ (t.rows.map t.identifier).Duplicate identifier := by
  have hat : ∀ i : Nat, (t.rows.map t.identifier)[i]? = some identifier ↔
      ∃ row, t.rows[i]? = some row ∧ t.IdentifiedBy row identifier := by
    intro i
    rw [List.getElem?_map, Option.map_eq_some_iff]
    simp only [identifiedBy_iff]
  rw [List.duplicate_iff_exists_distinct_get]
  constructor
  · rintro ⟨i, j, row, other, hlt, hrow, hother, hidentifier, hsame⟩
    obtain ⟨hi, hfirst⟩ := List.getElem?_eq_some_iff.mp ((hat i).mpr ⟨row, hrow, hidentifier⟩)
    obtain ⟨hj, hlater⟩ := List.getElem?_eq_some_iff.mp ((hat j).mpr ⟨other, hother, hsame⟩)
    exact ⟨⟨i, hi⟩, ⟨j, hj⟩, hlt, hfirst.symm, hlater.symm⟩
  · rintro ⟨⟨i, hi⟩, ⟨j, hj⟩, hlt, hfirst, hlater⟩
    obtain ⟨row, hrow, hidentifier⟩ :=
      (hat i).mp (List.getElem?_eq_some_iff.mpr ⟨hi, hfirst.symm⟩)
    obtain ⟨other, hother, hsame⟩ :=
      (hat j).mp (List.getElem?_eq_some_iff.mpr ⟨hj, hlater.symm⟩)
    exact ⟨i, j, row, other, hlt, hrow, hother, hidentifier, hsame⟩

/-! ### What is told -/

theorem pairwise_duplicates (t : Table) : t.duplicates.Pairwise (· < ·) :=
  Sorted.pairwise_keys (Sorted.ascending_ofList _)

theorem checkDuplicates_eq_error_iff {source : String} {failure : Failure} :
    t.checkDuplicates source = .error failure ↔
      t.duplicates ≠ [] ∧ failure = .duplicateIdentifiers source t.duplicates := by
  unfold checkDuplicates
  split
  · next hnil => simp [hnil]
  · next hne =>
    constructor
    · intro h
      exact ⟨fun hnil => hne hnil, (Except.error.inj h).symm⟩
    · rintro ⟨-, rfl⟩
      rfl

/-! ### The rows that are kept -/

theorem length_byIdentifier_eq_iff :
    t.byIdentifier.length = t.rows.length ↔ (t.rows.map t.identifier).Nodup := by
  have hlength : t.byIdentifier.length = (t.rows.map fun row => (t.identifier row, row)).length ↔
      ((t.rows.map fun row => (t.identifier row, row)).map (·.1)).Nodup :=
    Sorted.length_ofList_eq_iff
  rwa [map_fst_identified, List.length_map] at hlength

theorem perm_byIdentifier_iff :
    (t.byIdentifier.map (·.2)).Perm t.rows ↔ (t.rows.map t.identifier).Nodup := by
  constructor
  · intro hperm
    rw [← length_byIdentifier_eq_iff, ← hperm.length_eq, List.length_map]
  · intro hnodup
    have hrows : (t.rows.map fun row => (t.identifier row, row)).map (·.2) = t.rows := by
      rw [List.map_map]
      exact List.map_id t.rows
    rw [← map_fst_identified] at hnodup
    have hperm := (Sorted.perm_ofList_of_nodup hnodup).map (·.2)
    rw [hrows] at hperm
    exact hperm

/-- **Repeated identifiers are told exactly if the table by identifier would lose a row**, and then
all of them, in ascending order and each once. -/
theorem checkDuplicates_exact (t : Table) (source : String) :
    ((∃ failure, t.checkDuplicates source = .error failure) ↔
      ∃ identifier, t.Repeats identifier) ∧
    (∀ failure, t.checkDuplicates source = .error failure → ∃ ids : List String,
      failure.message = "Index error: " ++
        (s!"Duplicate identifiers ({ids.length} unique IDs) found in the index table ({source}): " ++
          ("\x7b" ++ ", ".intercalate (ids.map Text.quoted) ++ "\x7d")) ∧
      ids.Pairwise (· < ·) ∧ ∀ identifier, identifier ∈ ids ↔ t.Repeats identifier) ∧
    (t.checkDuplicates source = .ok () ↔ t.byIdentifier.length = t.rows.length) ∧
    (t.checkDuplicates source = .ok () ↔ (t.byIdentifier.map (·.2)).Perm t.rows) := by
  refine ⟨?_, ?_, ?_, ?_⟩
  · simp only [checkDuplicates_eq_error_iff, repeats_iff, ← mem_duplicates_iff]
    constructor
    · rintro ⟨-, hne, -⟩
      exact List.exists_mem_of_ne_nil _ hne
    · rintro ⟨identifier, hmem⟩
      exact ⟨_, List.ne_nil_of_mem hmem, rfl⟩
  · intro failure hfailure
    obtain ⟨-, rfl⟩ := checkDuplicates_eq_error_iff.mp hfailure
    refine ⟨t.duplicates, rfl, pairwise_duplicates t, fun identifier => ?_⟩
    rw [mem_duplicates_iff, repeats_iff]
  · rw [checkDuplicates_eq_ok_iff, length_byIdentifier_eq_iff]
  · rw [checkDuplicates_eq_ok_iff, perm_byIdentifier_iff]

/-- A table with rows that have no identifier cell, one identifier on three rows and a second column
of the name, which does not count. -/
def unevenTable : Table where
  columns := ["Name", "Identifier", "Identifier"]
  rows := [["a", "S2"], ["b"], ["c", "S1", "S9"], ["d", "S2"], [], ["e", "S3", "S9"], ["f", "S1"],
    ["g", "S2"]]

theorem checkDuplicates_exact_uneven :
    unevenTable.checkDuplicates "old.md" =
      .error (.duplicateIdentifiers "old.md" ["", "S1", "S2"]) ∧
    unevenTable.Repeats "" ∧ ¬ unevenTable.Repeats "S9" ∧
    unevenTable.byIdentifier.length ≠ unevenTable.rows.length ∧
    ∃ ids : List String, ids.Pairwise (· < ·) ∧
      ∀ identifier, identifier ∈ ids ↔ unevenTable.Repeats identifier := by
  have hfails : unevenTable.checkDuplicates "old.md" =
      .error (.duplicateIdentifiers "old.md" ["", "S1", "S2"]) := by decide +kernel
  obtain ⟨-, htold, hkept, -⟩ := checkDuplicates_exact unevenTable "old.md"
  obtain ⟨ids, -, hascending, hids⟩ := htold _ hfails
  refine ⟨hfails, ?_, ?_, ?_, ids, hascending, hids⟩
  · rw [repeats_iff, List.duplicate_iff_two_le_count]
    decide
  · rw [repeats_iff, List.duplicate_iff_two_le_count]
    decide
  · rw [Ne, ← hkept, hfails]
    exact nofun

end SopDocs.Index.Table
