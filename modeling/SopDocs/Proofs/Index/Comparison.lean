import SopDocs.Index.Comparison
import SopDocs.Proofs.Sorted

/-!
# A table does not differ from itself

Rows are matched by identifier, and of the rows with one identifier the last counts on
either side. So the rows that are matched in one and the same table are the same rows.
-/

namespace SopDocs.Index

theorem hasDifferences_eq_false_iff {existing new : Table} :
    (compare existing new).hasDifferences = false ↔ differences existing new = [] := by
  unfold Comparison.hasDifferences
  rw [Bool.not_eq_false', List.isEmpty_iff]
  rfl

theorem differingColumns_self (table : Table) (row : List String) :
    differingColumns table table row row = [] := by
  unfold differingColumns
  simp only [if_true]
  rw [List.filterMap_eq_nil_iff.mpr fun _ _ => rfl]
  rfl

/-- Comparing a table with itself tells of no difference. -/
theorem compare_self (table : Table) : (compare table table).hasDifferences = false := by
  have hascending : Sorted.Ascending table.byIdentifier := Sorted.ascending_ofList _
  have hkeys : (Sorted.keys table.byIdentifier).filter
      (fun k => !Sorted.contains k table.byIdentifier) = [] := by
    rw [List.filter_eq_nil_iff]
    intro key hkey
    rw [(Sorted.mem_keys_iff hascending).mp hkey]
    decide
  have hrows :
      table.byIdentifier.filterMap (rowDifference? table table table.byIdentifier) = [] := by
    rw [List.filterMap_eq_nil_iff]
    intro entry hentry
    unfold rowDifference?
    rw [(Sorted.mem_iff_get? hascending).mp hentry]
    simp only [differingColumns_self]
  rw [hasDifferences_eq_false_iff]
  unfold differences
  simp only [hkeys, hrows, if_true, List.map_nil, List.append_nil]

end SopDocs.Index
