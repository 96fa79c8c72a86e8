import Mathlib.Data.List.Induction
import SopDocs.Glossary
import SopDocs.Proofs.Occurrences
import SopDocs.Proofs.Sorted
import SopDocs.Proofs.Tree.Table

/-!
# What a glossary table defines

A term is defined by the last row whose first cell it is. Rows whose first cell is empty define
nothing, and the terms ascend in whatever order the rows stand.
-/

namespace SopDocs.Glossary

open SopDocs.Tree

theorem contains_iff {g : Glossary} {term : String} : g.contains term = true ↔ term ∈ g.terms := by
  unfold contains definition? terms Sorted.get? Sorted.keys
  rw [Option.isSome_map, List.find?_isSome, List.mem_map]
  simp only [beq_iff_eq]

/-! ### Rows -/

/-- The last row whose first cell is a term. -/
def lastRow? (term : String) (rows : List Row) : Option Row :=
  rows.reverse.find? fun row => row.head? == some term

theorem lastRow?_concat (term : String) (rows : List Row) (row : Row) :
    lastRow? term (rows ++ [row]) =
      if row.head? = some term then some row else lastRow? term rows := by
  unfold lastRow?
  rw [List.reverse_concat]
  by_cases hrow : row.head? = some term <;> simp [hrow]

theorem lastRow?_eq_some_iff {term : String} {rows : List Row} {row : Row} :
    lastRow? term rows = some row ↔ row.head? = some term ∧
      ∃ before after, rows = before ++ row :: after ∧
        ∀ later ∈ after, later.head? ≠ some term := by
  unfold lastRow?
  rw [find?_reverse_eq_some_iff, beq_iff_eq]
  simp only [beq_eq_false_iff_ne]

theorem isSome_lastRow?_iff {term : String} {rows : List Row} :
    (lastRow? term rows).isSome = true ↔ ∃ row ∈ rows, row.head? = some term := by
  unfold lastRow?
  simp only [List.find?_isSome, List.mem_reverse, beq_iff_eq]

theorem definition?_insert (g : Glossary) (term definition name : String) :
    (g.insert term definition).definition? name =
      if term = name then some definition else g.definition? name :=
  Sorted.get?_put term name definition g.entries

theorem definition?_addRow (g : Glossary) (row : Row) (term : String) :
    (g.addRow row).definition? term =
      if term ≠ "" ∧ row.head? = some term then some (row[1]?.getD "") else g.definition? term := by
  unfold addRow
  cases row with
  | nil => simp
  | cons name rest =>
    have hsecond : rest.headD "" = ((name :: rest)[1]?).getD "" := by cases rest <;> rfl
    simp only [List.head?_cons, Option.some.injEq, ← hsecond]
    split
    · next hempty =>
      have hname : name = "" := String.isEmpty_iff.mp hempty
      rw [if_neg]
      rintro ⟨hterm, heq⟩
      exact hterm (heq.symm.trans hname)
    · next hname =>
      rw [definition?_insert]
      apply ite_congr _ (fun _ => rfl) (fun _ => rfl)
      apply propext
      refine ⟨fun heq => ⟨fun hempty => ?_, heq⟩, And.right⟩
      exact hname (String.isEmpty_iff.mpr (heq.trans hempty))

theorem ascending_addRow {g : Glossary} (h : Sorted.Ascending g.entries) (row : Row) :
    Sorted.Ascending (g.addRow row).entries := by
  unfold addRow
  split
  · exact h
  · split
    · exact h
    · exact Sorted.ascending_put _ _ h

/-! ### Tables -/

theorem ofRows_concat (rows : List Row) (row : Row) :
    ofRows (rows ++ [row]) = (ofRows rows).addRow row :=
  List.foldl_append

/-- The last row of a term defines it, as its second cell or as the empty text. -/
theorem definition?_ofRows (rows : List Row) (term : String) :
    (ofRows rows).definition? term =
      if term = "" then none else (lastRow? term rows).map fun row => row[1]?.getD "" := by
  induction rows using List.reverseRecOn with
  | nil => split <;> rfl
  | append_singleton rows row ih =>
    rw [ofRows_concat, definition?_addRow, lastRow?_concat, ih]
    by_cases hterm : term = ""
    · simp [hterm]
    · by_cases hrow : row.head? = some term <;> simp [hterm, hrow]

theorem ascending_ofRows (rows : List Row) : Sorted.Ascending (ofRows rows).entries := by
  induction rows using List.reverseRecOn with
  | nil => exact List.Pairwise.nil
  | append_singleton rows row ih =>
    rw [ofRows_concat]
    exact ascending_addRow ih row

variable {root : Node} {term definition : String}

theorem ascending_ofTree (root : Node) : Sorted.Ascending (ofTree root).entries := by
  unfold ofTree
  split
  · exact List.Pairwise.nil
  · exact ascending_ofRows _

theorem pairwise_terms_ofTree (root : Node) : (ofTree root).terms.Pairwise (· < ·) :=
  Sorted.pairwise_keys (ascending_ofTree root)

/-- A term is looked up in the body rows of the first glossary table. -/
theorem definition?_ofTree_eq_some_iff :
    (ofTree root).definition? term = some definition ↔ term ≠ "" ∧
      ∃ table row, FirstTable glossaryHeader root table ∧
        lastRow? term table.bodyRows = some row ∧ row[1]?.getD "" = definition := by
  unfold ofTree
  cases htable : tableWith? glossaryHeader root with
  | none =>
    have hnone := tableWith?_eq_none_iff.mp htable
    refine ⟨nofun, ?_⟩
    rintro ⟨-, table, row, hfirst, -⟩
    exact absurd hfirst (hnone table)
  | some table =>
    have hfirst := tableWith?_eq_some_iff.mp htable
    show (ofRows table.bodyRows).definition? term = some definition ↔ _
    rw [definition?_ofRows]
    constructor
    · intro hdefinition
      split at hdefinition
      · cases hdefinition
      · next hterm =>
        obtain ⟨row, hrow, hcell⟩ := Option.map_eq_some_iff.mp hdefinition
        exact ⟨hterm, table, row, hfirst, hrow, hcell⟩
    · rintro ⟨hterm, other, row, hother, hrow, hcell⟩
      obtain rfl := hother.unique hfirst
      rw [if_neg hterm, hrow, Option.map_some, hcell]

theorem contains_ofTree_iff :
    (ofTree root).contains term = true ↔ term ≠ "" ∧
      ∃ table, FirstTable glossaryHeader root table ∧
        ∃ row ∈ table.bodyRows, row.head? = some term := by
  unfold contains
  rw [Option.isSome_iff_exists]
  simp only [definition?_ofTree_eq_some_iff, ← isSome_lastRow?_iff, Option.isSome_iff_exists]
  constructor
  · rintro ⟨_, hterm, table, row, hfirst, hrow, -⟩
    exact ⟨hterm, table, hfirst, row, hrow⟩
  · rintro ⟨hterm, table, hfirst, row, hrow⟩
    exact ⟨_, hterm, table, row, hfirst, hrow, rfl⟩

end SopDocs.Glossary
