import SopDocs.Tree.Table

/-!
# The first table with a header

Tables are known by the header row, up to case, and of several with one header the first in
document order counts.
-/

namespace SopDocs.Tree

/-- The first row of a table is a header, up to case. -/
def HasHeader (signature : Row) (table : Node) : Prop :=
  ∃ header ∈ table.tableRows.head?, header.map Text.lowered = signature.map Text.lowered

/-- A table with a header, the first one below a root. -/
def FirstTable (signature : Row) (root table : Node) : Prop :=
  ∃ before after, root.findAll .table = before ++ table :: after ∧ HasHeader signature table ∧
    ∀ other ∈ before, ¬ HasHeader signature other

variable {signature : Row} {root table : Node}

theorem hasHeader_iff : hasHeader signature table = true ↔ HasHeader signature table := by
  unfold hasHeader HasHeader headerMatches
  cases table.tableRows with
  | nil => exact ⟨nofun, nofun⟩
  | cons header rows =>
    constructor
    · intro hheader
      exact ⟨header, rfl, beq_iff_eq.mp hheader⟩
    · rintro ⟨other, hother, hheader⟩
      obtain rfl : header = other := Option.some.inj hother
      exact beq_iff_eq.mpr hheader

theorem tableWith?_eq_some_iff :
    tableWith? signature root = some table ↔ FirstTable signature root table := by
  unfold tableWith? tablesWith FirstTable
  rw [List.head?_filter, List.find?_eq_some_iff_append]
  simp only [hasHeader_iff, Bool.not_eq_true', ← Bool.not_eq_true]
  constructor
  · rintro ⟨hheader, before, after, htables, hbefore⟩
    exact ⟨before, after, htables, hheader, hbefore⟩
  · rintro ⟨before, after, htables, hheader, hbefore⟩
    exact ⟨hheader, before, after, htables, hbefore⟩

/-- There is no more than one first table. -/
theorem FirstTable.unique {other : Node} (h : FirstTable signature root table)
    (hother : FirstTable signature root other) : table = other := by
  apply Option.some.inj
  rw [← tableWith?_eq_some_iff.mpr h]
  exact tableWith?_eq_some_iff.mpr hother

theorem tableWith?_eq_none_iff :
    tableWith? signature root = none ↔ ∀ table, ¬ FirstTable signature root table := by
  rw [Option.eq_none_iff_forall_ne_some]
  exact forall_congr' fun _ => not_congr tableWith?_eq_some_iff

end SopDocs.Tree
