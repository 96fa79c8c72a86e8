import SopDocs.Index.Comparison
import SopDocs.Proofs.Index.TableMap

/-!
# A comparison tells exactly what differs

Two tables with the same columns are compared as the maps that they are. What the comparison
lists are the identifiers that only one map has and, for each one that both have, the columns
in which their texts differ. If it lists nothing, the maps are the same, and the other way round.
-/

namespace SopDocs.Index

variable {existing new : Table}

/-- Tables whose rows can be matched: maps with the same columns, in any order. -/
structure Comparable (existing new : Table) : Prop where
  keyed : existing.Keyed
  keyed_new : new.Keyed
  columns : ∀ column, column ∈ existing.columns ↔ column ∈ new.columns

theorem Comparable.symm (h : Comparable existing new) : Comparable new existing :=
  ⟨h.keyed_new, h.keyed, fun column => (h.columns column).symm⟩

/-! ### Columns of one identifier -/

/-- The texts in which two tables differ for an identifier, in ascending order of the columns. -/
structure ExactColumns (existing new : Table) (identifier : String)
    (differing : List (String × ColumnDifference)) : Prop where
  ascending : Sorted.Ascending differing
  mem : ∀ column d, (column, d) ∈ differing ↔
    existing.Holds identifier column d.existing ∧ new.Holds identifier column d.new ∧
      d.existing ≠ d.new

/-- Pairs that are made of texts, each with its text as key, have the texts as keys. -/
theorem sublist_keys_filterMap {α : Type} {f : String → Option (String × α)}
    (hf : ∀ a p, f a = some p → p.1 = a) (texts : List String) :
    ((texts.filterMap f).map (·.1)).Sublist texts := by
  induction texts with
  | nil => exact List.Sublist.refl _
  | cons a texts ih =>
    rw [List.filterMap_cons]
    cases hfound : f a with
    | none => exact ih.cons a
    | some p =>
      simp only [List.map_cons, hf a p hfound]
      exact ih.cons_cons a

theorem mem_differingColumns (h : existing.columns.Nodup) {old current : List String}
    {column : String} {d : ColumnDifference} :
    (column, d) ∈ differingColumns existing new old current ↔
      column ∈ existing.columns ∧ column ≠ identifierColumn ∧
        existing.cell old column = d.existing ∧ new.cell current column = d.new ∧
        d.existing ≠ d.new := by
  unfold differingColumns
  rw [Sorted.mem_ofList_of_nodup, List.mem_filterMap]
  · constructor
    · rintro ⟨other, hother, hsome⟩
      obtain ⟨hmem, hne⟩ := List.mem_filter.mp hother
      simp only at hsome
      split at hsome
      · cases hsome
      · next hdiffers =>
        cases hsome
        exact ⟨hmem, by simpa using hne, rfl, rfl, hdiffers⟩
    · rintro ⟨hmem, hne, hold, hcurrent, hdiffers⟩
      refine ⟨column, List.mem_filter.mpr ⟨hmem, by simpa using hne⟩, ?_⟩
      simp only [hold, hcurrent, if_neg hdiffers]
  · refine (sublist_keys_filterMap ?_ _).nodup (h.filter (· != identifierColumn))
    intro other p hsome
    simp only at hsome
    split at hsome
    · cases hsome
    · cases hsome
      rfl

theorem exactColumns_differingColumns (h : Comparable existing new) {identifier : String}
    {old current : List String}
    (hold : Sorted.get? identifier existing.byIdentifier = some old)
    (hcurrent : Sorted.get? identifier new.byIdentifier = some current) :
    ExactColumns existing new identifier (differingColumns existing new old current) where
  ascending := Sorted.ascending_ofList _
  mem := by
    intro column d
    rw [mem_differingColumns h.keyed.distinct]
    constructor
    · rintro ⟨hmem, -, hexisting, hnew, hdiffers⟩
      exact ⟨h.keyed.holds_iff.mpr ⟨old, hold, hmem, hexisting⟩,
        h.keyed_new.holds_iff.mpr ⟨current, hcurrent, (h.columns column).mp hmem, hnew⟩,
        hdiffers⟩
    · rintro ⟨hexisting, hnew, hdiffers⟩
      have hne : column ≠ identifierColumn := by
        rintro rfl
        rw [h.keyed.holds_identifierColumn hexisting, h.keyed_new.holds_identifierColumn hnew]
          at hdiffers
        exact hdiffers rfl
      obtain ⟨row, hrow, hmem, hcell⟩ := h.keyed.holds_iff.mp hexisting
      obtain ⟨row', hrow', -, hcell'⟩ := h.keyed_new.holds_iff.mp hnew
      rw [hold, Option.some.injEq] at hrow
      rw [hcurrent, Option.some.injEq] at hrow'
      subst hrow hrow'
      exact ⟨hmem, hne, hcell, hcell', hdiffers⟩

/-! ### Rows of both tables -/

/-- The identifier of a row of both tables, with what differs, if anything does. -/
def changedRow? (existing new : Table) (entry : String × List String) :
    Option (String × List (String × ColumnDifference)) :=
  (Sorted.get? entry.1 new.byIdentifier).bind fun current =>
    let differing := differingColumns existing new entry.2 current
    if differing = [] then none else some (entry.1, differing)

def changedRows (existing new : Table) : List (String × List (String × ColumnDifference)) :=
  existing.byIdentifier.filterMap (changedRow? existing new)

theorem rowDifference?_eq (entry : String × List String) :
    rowDifference? existing new new.byIdentifier entry =
      (changedRow? existing new entry).map fun p => .columns p.1 p.2 := by
  unfold rowDifference? changedRow?
  cases Sorted.get? entry.1 new.byIdentifier with
  | none => rfl
  | some current =>
    simp only [Option.bind_some]
    cases differingColumns existing new entry.2 current <;> rfl

theorem changedRow?_eq_some_iff {entry : String × List String} {identifier : String}
    {differing : List (String × ColumnDifference)} :
    changedRow? existing new entry = some (identifier, differing) ↔
      entry.1 = identifier ∧ differing ≠ [] ∧ ∃ current,
        Sorted.get? identifier new.byIdentifier = some current ∧
        differingColumns existing new entry.2 current = differing := by
  unfold changedRow?
  rw [Option.bind_eq_some_iff]
  constructor
  · rintro ⟨current, hcurrent, hsome⟩
    simp only at hsome
    split at hsome
    · cases hsome
    · next hne =>
      cases hsome
      exact ⟨rfl, hne, current, hcurrent, rfl⟩
  · rintro ⟨rfl, hne, current, hcurrent, rfl⟩
    exact ⟨current, hcurrent, if_neg hne⟩

theorem ascending_changedRows : Sorted.Ascending (changedRows existing new) := by
  refine List.Pairwise.filterMap _ ?_ existing.ascending_byIdentifier
  intro entry entry' hlt p hp p' hp'
  obtain ⟨hfst, -⟩ := changedRow?_eq_some_iff.mp hp
  obtain ⟨hfst', -⟩ := changedRow?_eq_some_iff.mp hp'
  rwa [← hfst, ← hfst']

theorem mem_changedRows {identifier : String} {differing : List (String × ColumnDifference)} :
    (identifier, differing) ∈ changedRows existing new ↔ differing ≠ [] ∧ ∃ old current,
      Sorted.get? identifier existing.byIdentifier = some old ∧
      Sorted.get? identifier new.byIdentifier = some current ∧
      differingColumns existing new old current = differing := by
  unfold changedRows
  rw [List.mem_filterMap]
  constructor
  · rintro ⟨entry, hentry, hsome⟩
    obtain ⟨rfl, hne, current, hcurrent, hdiffering⟩ := changedRow?_eq_some_iff.mp hsome
    exact ⟨hne, entry.2, current,
      (Sorted.mem_iff_get? existing.ascending_byIdentifier).mp hentry, hcurrent, hdiffering⟩
  · rintro ⟨hne, old, current, hold, hcurrent, hdiffering⟩
    exact ⟨(identifier, old), (Sorted.mem_iff_get? existing.ascending_byIdentifier).mpr hold,
      changedRow?_eq_some_iff.mpr ⟨rfl, hne, current, hcurrent, hdiffering⟩⟩

/-! ### Identifiers of one table -/

/-- The identifiers of one table that another does not have. -/
def missingRows (t other : Table) : List String :=
  (Sorted.keys t.byIdentifier).filter fun k => !Sorted.contains k other.byIdentifier

theorem pairwise_missingRows (t other : Table) : (missingRows t other).Pairwise (· < ·) :=
  (Sorted.pairwise_keys t.ascending_byIdentifier).filter _

theorem mem_missingRows {t other : Table} (ht : t.Keyed) (hother : other.Keyed)
    {identifier : String} :
    identifier ∈ missingRows t other ↔ t.Lists identifier ∧ ¬ other.Lists identifier := by
  unfold missingRows
  rw [List.mem_filter, Sorted.mem_keys_iff t.ascending_byIdentifier, ht.lists_iff,
    hother.lists_iff]
  simp

/-! ### The whole list -/

/-- The parts of a comparison of two tables, each in ascending order: the identifiers of one
table only, and those of both for which the texts of some column differ, with these columns. -/
structure ExactParts (existing new : Table) (gone added : List String)
    (changed : List (String × List (String × ColumnDifference))) : Prop where
  gone_ascending : gone.Pairwise (· < ·)
  mem_gone : ∀ identifier,
    identifier ∈ gone ↔ existing.Lists identifier ∧ ¬ new.Lists identifier
  added_ascending : added.Pairwise (· < ·)
  mem_added : ∀ identifier,
    identifier ∈ added ↔ new.Lists identifier ∧ ¬ existing.Lists identifier
  changed_ascending : Sorted.Ascending changed
  mem_changed : ∀ identifier, (∃ differing, (identifier, differing) ∈ changed) ↔
    ∃ column old current, existing.Holds identifier column old ∧
      new.Holds identifier column current ∧ old ≠ current
  columns : ∀ identifier differing, (identifier, differing) ∈ changed →
    ExactColumns existing new identifier differing

theorem exactParts (h : Comparable existing new) :
    ExactParts existing new (missingRows existing new) (missingRows new existing)
      (changedRows existing new) where
  gone_ascending := pairwise_missingRows existing new
  mem_gone := fun _ => mem_missingRows h.keyed h.keyed_new
  added_ascending := pairwise_missingRows new existing
  mem_added := fun _ => mem_missingRows h.keyed_new h.keyed
  changed_ascending := ascending_changedRows
  mem_changed := by
    intro identifier
    constructor
    · rintro ⟨differing, hmem⟩
      obtain ⟨hne, old, current, hold, hcurrent, rfl⟩ := mem_changedRows.mp hmem
      obtain ⟨⟨column, d⟩, hd⟩ := List.exists_mem_of_ne_nil _ hne
      obtain ⟨hexisting, hnew, hdiffers⟩ :=
        ((exactColumns_differingColumns h hold hcurrent).mem column d).mp hd
      exact ⟨column, _, _, hexisting, hnew, hdiffers⟩
    · rintro ⟨column, textOld, textNew, hexisting, hnew, hdiffers⟩
      obtain ⟨old, hold, -⟩ := h.keyed.holds_iff.mp hexisting
      obtain ⟨current, hcurrent, -⟩ := h.keyed_new.holds_iff.mp hnew
      have hmem := ((exactColumns_differingColumns h hold hcurrent).mem column
        ⟨textOld, textNew⟩).mpr ⟨hexisting, hnew, hdiffers⟩
      exact ⟨_, mem_changedRows.mpr
        ⟨List.ne_nil_of_mem hmem, old, current, hold, hcurrent, rfl⟩⟩
  columns := by
    intro identifier differing hmem
    obtain ⟨-, old, current, hold, hcurrent, rfl⟩ := mem_changedRows.mp hmem
    exact exactColumns_differingColumns h hold hcurrent

theorem differences_eq_parts (existing new : Table) :
    differences existing new =
      (if existing.rows.length = new.rows.length then []
        else [.rowCount existing.rows.length new.rows.length]) ++
      (missingRows existing new).map .onlyExisting ++
      (missingRows new existing).map .onlyNew ++
      (changedRows existing new).map fun p => .columns p.1 p.2 := by
  have hrows : existing.byIdentifier.filterMap (rowDifference? existing new new.byIdentifier) =
      (changedRows existing new).map fun p => .columns p.1 p.2 := by
    unfold changedRows
    rw [List.map_filterMap, funext rowDifference?_eq]
  unfold differences
  simp only [hrows]
  rfl

/-! ### No identifier twice -/

/-- The identifier that a difference is about. -/
def Difference.identifier? : Difference → Option String
  | .rowCount _ _ => none
  | .onlyExisting identifier => some identifier
  | .onlyNew identifier => some identifier
  | .columns identifier _ => some identifier

theorem identifiers_differences (existing new : Table) :
    (differences existing new).filterMap Difference.identifier? =
      missingRows existing new ++ missingRows new existing ++
        Sorted.keys (changedRows existing new) := by
  have honly : ∀ difference : String → Difference,
      (∀ identifier, (difference identifier).identifier? = some identifier) →
      ∀ identifiers : List String,
        (identifiers.map difference).filterMap Difference.identifier? = identifiers := by
    intro difference habout identifiers
    have hcomp : Difference.identifier? ∘ difference = some := funext habout
    rw [List.filterMap_map, hcomp]
    exact List.filterMap_some
  have hchanged : ((changedRows existing new).map
      fun p => Difference.columns p.1 p.2).filterMap Difference.identifier? =
        Sorted.keys (changedRows existing new) := by
    rw [List.filterMap_map]
    exact congrFun (List.filterMap_eq_map (f := Prod.fst)) _
  have hcount : (if existing.rows.length = new.rows.length then []
      else [.rowCount existing.rows.length new.rows.length]).filterMap
        Difference.identifier? = [] := by
    split <;> rfl
  rw [differences_eq_parts, List.filterMap_append, List.filterMap_append, List.filterMap_append,
    hcount, honly .onlyExisting fun _ => rfl, honly .onlyNew fun _ => rfl, hchanged,
    List.nil_append]

theorem nodup_identifiers_differences (h : Comparable existing new) :
    ((differences existing new).filterMap Difference.identifier?).Nodup := by
  have hparts := exactParts h
  have hboth : ∀ identifier ∈ Sorted.keys (changedRows existing new),
      existing.Lists identifier ∧ new.Lists identifier := by
    intro identifier hidentifier
    obtain ⟨⟨_, differing⟩, hmem, rfl⟩ := List.mem_map.mp hidentifier
    obtain ⟨column, old, current, hexisting, hnew, -⟩ :=
      (hparts.mem_changed _).mp ⟨differing, hmem⟩
    exact ⟨Table.lists_of_holds hexisting, Table.lists_of_holds hnew⟩
  rw [identifiers_differences, List.nodup_append, List.nodup_append]
  refine ⟨⟨Sorted.nodup_of_pairwise_lt hparts.gone_ascending,
    Sorted.nodup_of_pairwise_lt hparts.added_ascending, ?_⟩,
    Sorted.nodup_keys hparts.changed_ascending, ?_⟩
  · rintro identifier hgone _ hadded rfl
    exact ((hparts.mem_gone _).mp hgone).2 ((hparts.mem_added _).mp hadded).1
  · rintro identifier hmissing _ hchanged rfl
    obtain ⟨hexisting, hnew⟩ := hboth _ hchanged
    rcases List.mem_append.mp hmissing with hgone | hadded
    · exact ((hparts.mem_gone _).mp hgone).2 hnew
    · exact ((hparts.mem_added _).mp hadded).2 hexisting

/-! ### No difference -/

/-- The tables are the same map. -/
def SameMap (existing new : Table) : Prop :=
  ∀ identifier column text,
    existing.Holds identifier column text ↔ new.Holds identifier column text

theorem missingRows_eq_nil_iff {t other : Table} (ht : t.Keyed) (hother : other.Keyed) :
    missingRows t other = [] ↔ ∀ identifier, t.Lists identifier → other.Lists identifier := by
  rw [List.eq_nil_iff_forall_not_mem]
  refine forall_congr' fun identifier => ?_
  rw [mem_missingRows ht hother]
  constructor
  · intro hnot hlists
    exact Classical.byContradiction fun hmissing => hnot ⟨hlists, hmissing⟩
  · rintro himp ⟨hlists, hmissing⟩
    exact hmissing (himp hlists)

theorem changedRows_eq_nil_iff (h : Comparable existing new) :
    changedRows existing new = [] ↔ ∀ identifier column old current,
      existing.Holds identifier column old → new.Holds identifier column current →
        old = current := by
  have hparts := exactParts h
  constructor
  · intro hnil identifier column old current hexisting hnew
    by_cases heq : old = current
    · exact heq
    · obtain ⟨differing, hmem⟩ :=
        (hparts.mem_changed identifier).mpr ⟨column, old, current, hexisting, hnew, heq⟩
      rw [hnil] at hmem
      cases hmem
  · intro hagree
    refine List.eq_nil_iff_forall_not_mem.mpr fun p hmem => ?_
    obtain ⟨column, old, current, hexisting, hnew, hdiffers⟩ :=
      (hparts.mem_changed p.1).mp ⟨p.2, hmem⟩
    exact hdiffers (hagree _ _ _ _ hexisting hnew)

/-- What one table says the other says too, if it lists the identifier and says nothing else. -/
theorem Comparable.holds_new (h : Comparable existing new) {identifier column text : String}
    (hlists : existing.Lists identifier → new.Lists identifier)
    (hagree : ∀ current, new.Holds identifier column current → text = current)
    (hexisting : existing.Holds identifier column text) : new.Holds identifier column text := by
  obtain ⟨_, _, hcolumn, _⟩ := h.keyed.holds_iff.mp hexisting
  obtain ⟨current, hnew⟩ := h.keyed_new.exists_holds (hlists (Table.lists_of_holds hexisting))
    ((h.columns column).mp hcolumn)
  rwa [hagree current hnew]

theorem SameMap.lists_iff (h : SameMap existing new) (hcomparable : Comparable existing new)
    (identifier : String) : existing.Lists identifier ↔ new.Lists identifier := by
  rw [hcomparable.keyed.lists_iff_holds, hcomparable.keyed_new.lists_iff_holds]
  exact exists_congr fun text => h identifier identifierColumn text

theorem differences_eq_nil_iff (h : Comparable existing new) :
    differences existing new = [] ↔ SameMap existing new := by
  rw [differences_eq_parts, List.append_eq_nil_iff, List.append_eq_nil_iff,
    List.append_eq_nil_iff, List.map_eq_nil_iff, List.map_eq_nil_iff, List.map_eq_nil_iff,
    missingRows_eq_nil_iff h.keyed h.keyed_new, missingRows_eq_nil_iff h.keyed_new h.keyed,
    changedRows_eq_nil_iff h]
  constructor
  · rintro ⟨⟨⟨-, hgone⟩, hadded⟩, hagree⟩ identifier column text
    refine ⟨fun hexisting => ?_, fun hnew => ?_⟩
    · exact h.holds_new (hgone identifier)
        (fun current hnew => hagree _ _ _ _ hexisting hnew) hexisting
    · exact h.symm.holds_new (hadded identifier)
        (fun old hexisting => (hagree _ _ _ _ hexisting hnew).symm) hnew
  · intro hsame
    have hlists := hsame.lists_iff h
    -- The maps have the same identifiers, and each identifier is on one row.
    have hcount : existing.rows.length = new.rows.length :=
      h.keyed.length_eq h.keyed_new hlists
    refine ⟨⟨⟨if_pos hcount, fun identifier => (hlists identifier).mp⟩,
      fun identifier => (hlists identifier).mpr⟩, ?_⟩
    intro identifier column old current hexisting hnew
    exact h.keyed_new.holds_unique ((hsame _ _ _).mp hexisting) hnew

/-- **A comparison of tables lists exactly the differences of the maps that they are**, each
identifier once, and it lists nothing if and only if the maps are the same. -/
theorem compare_exact (h : Comparable existing new) :
    (∃ gone added changed, ExactParts existing new gone added changed ∧
      (compare existing new).differences =
        (if existing.rows.length = new.rows.length then []
          else [.rowCount existing.rows.length new.rows.length]) ++
        gone.map .onlyExisting ++ added.map .onlyNew ++
        changed.map fun p => .columns p.1 p.2) ∧
    ((compare existing new).differences.filterMap Difference.identifier?).Nodup ∧
    ((compare existing new).hasDifferences = false ↔ SameMap existing new) := by
  refine ⟨⟨_, _, _, exactParts h, differences_eq_parts existing new⟩,
    nodup_identifiers_differences h, ?_⟩
  rw [← differences_eq_nil_iff h]
  unfold Comparison.hasDifferences
  rw [Bool.not_eq_false', List.isEmpty_iff]
  rfl

/-- An index with a row that has no cell for its last column. -/
def shortIndex : Table where
  columns := ["Identifier", "Topic", "Steps"]
  rows := [["S1", "Access", "3"], ["S3", "Storage", "1"], ["S2", "Helpdesk"]]

/-- The index with its columns and rows in another order, one row changed, one gone and
two more. -/
def movedIndex : Table where
  columns := ["Steps", "Identifier", "Topic"]
  rows := [["2", "S5", "Audit"], ["", "S2", "Helpdesk"], ["3", "S1", "Data access"],
    ["4", "S4", "Release"]]

theorem compare_exact_movedIndex :
    Comparable shortIndex movedIndex ∧
    (compare shortIndex movedIndex).differences =
      [.rowCount 3 4, .onlyExisting "S3", .onlyNew "S4", .onlyNew "S5",
        .columns "S1" [("Topic", ⟨"Access", "Data access"⟩)]] ∧
    (∃ gone added changed, ExactParts shortIndex movedIndex gone added changed) ∧
    ¬ SameMap shortIndex movedIndex := by
  have hshort : shortIndex.Keyed :=
    ⟨by decide, by decide, "existing", Table.checkDuplicates_eq_ok_iff.mpr (by decide)⟩
  have hmoved : movedIndex.Keyed :=
    ⟨by decide, by decide, "new", Table.checkDuplicates_eq_ok_iff.mpr (by decide)⟩
  have hcolumns : shortIndex.columns.Perm movedIndex.columns := by decide
  have hdifferences : (compare shortIndex movedIndex).differences =
      [.rowCount 3 4, .onlyExisting "S3", .onlyNew "S4", .onlyNew "S5",
        .columns "S1" [("Topic", ⟨"Access", "Data access"⟩)]] := by
    decide +kernel
  have hcomparable : Comparable shortIndex movedIndex :=
    ⟨hshort, hmoved, fun _ => hcolumns.mem_iff⟩
  obtain ⟨⟨gone, added, changed, hparts, -⟩, -, hsame⟩ := compare_exact hcomparable
  refine ⟨hcomparable, hdifferences, ⟨gone, added, changed, hparts⟩, ?_⟩
  rw [← hsame]
  unfold Comparison.hasDifferences
  rw [hdifferences]
  decide

end SopDocs.Index
