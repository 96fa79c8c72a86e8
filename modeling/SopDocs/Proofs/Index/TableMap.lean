import Mathlib.Data.List.Duplicate
import SopDocs.Index.Table
import SopDocs.Proofs.Sorted

/-!
# An index table as a map

A table says of each identifier what stands in each column. That is a relation between an
identifier, a column name and a text, in which neither the order of the rows nor that of the
columns has a part. If no column name and no identifier stands twice, it is a map, and looking
rows up by identifier and cells by column name reads it.
-/

namespace SopDocs.Index.Table

/-- What a row has in a column, by position; cells that a short row does not have are empty. -/
def RowHas (t : Table) (row : List String) (column text : String) : Prop :=
  ∃ i, t.columns[i]? = some column ∧ row.getD i "" = text

/-- The text that a table has for an identifier in a column. -/
def Holds (t : Table) (identifier column text : String) : Prop :=
  ∃ row ∈ t.rows, t.RowHas row identifierColumn identifier ∧ t.RowHas row column text

/-- An identifier that some row has. -/
def Lists (t : Table) (identifier : String) : Prop :=
  ∃ row ∈ t.rows, t.RowHas row identifierColumn identifier

/-- A table with an identifier column in which no column name and no identifier stands twice. -/
structure Keyed (t : Table) : Prop where
  identified : identifierColumn ∈ t.columns
  distinct : t.columns.Nodup
  unique : ∃ source, t.checkDuplicates source = .ok ()

theorem lists_of_holds {t : Table} {identifier column text : String}
    (hholds : t.Holds identifier column text) : t.Lists identifier := by
  obtain ⟨row, hrow, hidentifier, -⟩ := hholds
  exact ⟨row, hrow, hidentifier⟩

/-! ### Repeated identifiers -/

theorem mem_repeatedAfter_iff {seen texts : List String} {a : String} :
    a ∈ repeatedAfter seen texts ↔ texts.Duplicate a ∨ a ∈ seen ∧ a ∈ texts := by
  induction texts generalizing seen with
  | nil => simp [repeatedAfter]
  | cons b texts ih =>
    rw [repeatedAfter, List.duplicate_cons_iff]
    split
    · next hseen =>
      rw [List.contains_iff_mem] at hseen
      rw [List.mem_cons, ih, List.mem_cons]
      constructor
      · rintro (rfl | hdup | ⟨ha, hmem⟩)
        · exact Or.inr ⟨hseen, Or.inl rfl⟩
        · exact Or.inl (Or.inr hdup)
        · exact Or.inr ⟨ha, Or.inr hmem⟩
      · rintro ((⟨rfl, -⟩ | hdup) | ⟨ha, rfl | hmem⟩)
        · exact Or.inl rfl
        · exact Or.inr (Or.inl hdup)
        · exact Or.inl rfl
        · exact Or.inr (Or.inr ⟨ha, hmem⟩)
    · next hfresh =>
      rw [List.contains_iff_mem] at hfresh
      rw [ih, List.mem_cons, List.mem_cons]
      constructor
      · rintro (hdup | ⟨rfl | ha, hmem⟩)
        · exact Or.inl (Or.inr hdup)
        · exact Or.inl (Or.inl ⟨rfl, hmem⟩)
        · exact Or.inr ⟨ha, Or.inr hmem⟩
      · rintro ((⟨rfl, hmem⟩ | hdup) | ⟨ha, rfl | hmem⟩)
        · exact Or.inr ⟨Or.inl rfl, hmem⟩
        · exact Or.inl hdup
        · exact absurd ha hfresh
        · exact Or.inr ⟨Or.inr ha, hmem⟩

theorem mem_duplicates_iff {t : Table} {identifier : String} :
    identifier ∈ t.duplicates ↔ (t.rows.map t.identifier).Duplicate identifier := by
  have hkeys : ∀ texts : List String, (texts.map fun a => (a, ())).map (·.1) = texts := by
    intro texts
    rw [List.map_map]
    exact List.map_id texts
  unfold duplicates
  rw [Sorted.mem_keys_ofList_iff, hkeys, mem_repeatedAfter_iff]
  exact or_iff_left fun h => absurd h.1 List.not_mem_nil

theorem duplicates_eq_nil_iff {t : Table} :
    t.duplicates = [] ↔ (t.rows.map t.identifier).Nodup := by
  rw [List.eq_nil_iff_forall_not_mem, List.nodup_iff_forall_not_duplicate]
  exact forall_congr' fun _ => not_congr mem_duplicates_iff

theorem checkDuplicates_eq_ok_iff {t : Table} {source : String} :
    t.checkDuplicates source = .ok () ↔ (t.rows.map t.identifier).Nodup := by
  rw [← duplicates_eq_nil_iff]
  unfold checkDuplicates
  split
  · next hnil => simp [hnil]
  · next hcons => simpa using hcons

/-- The rows are put under their identifiers. -/
theorem map_fst_identified (t : Table) :
    (t.rows.map fun row => (t.identifier row, row)).map (·.1) = t.rows.map t.identifier :=
  List.map_map

theorem ascending_byIdentifier (t : Table) : Sorted.Ascending t.byIdentifier :=
  Sorted.ascending_ofList _

theorem findIdx?_eq_none_iff_not_mem {columns : List String} {column : String} :
    columns.findIdx? (· == column) = none ↔ column ∉ columns := by
  rw [List.findIdx?_eq_none_iff]
  constructor
  · intro hnone hmem
    exact absurd rfl (beq_eq_false_iff_ne.mp (hnone column hmem))
  · intro hnot other hother
    exact beq_eq_false_iff_ne.mpr fun heq => hnot (heq ▸ hother)

namespace Keyed

variable {t : Table}

theorem nodup_identifiers (h : t.Keyed) : (t.rows.map t.identifier).Nodup := by
  obtain ⟨source, hsource⟩ := h.unique
  exact checkDuplicates_eq_ok_iff.mp hsource

/-! ### Cells -/

theorem rowHas_iff (h : t.Keyed) {row : List String} {column text : String} :
    t.RowHas row column text ↔ column ∈ t.columns ∧ t.cell row column = text := by
  unfold RowHas cell
  cases hfound : t.columns.findIdx? (· == column) with
  | none =>
    have hcolumn : column ∉ t.columns := findIdx?_eq_none_iff_not_mem.mp hfound
    constructor
    · rintro ⟨i, hi, -⟩
      exact absurd (List.mem_of_getElem? hi) hcolumn
    · rintro ⟨hmem, -⟩
      exact absurd hmem hcolumn
  | some k =>
    obtain ⟨hk, heq, -⟩ := List.findIdx?_eq_some_iff_getElem.mp hfound
    have hat : t.columns[k]? = some column := by
      rw [List.getElem?_eq_getElem hk, beq_iff_eq.mp heq]
    constructor
    · rintro ⟨i, hi, htext⟩
      obtain ⟨hlt, -⟩ := List.getElem?_eq_some_iff.mp hi
      have hik : i = k := (List.getElem?_inj hlt h.distinct).mp (hi.trans hat.symm)
      subst hik
      exact ⟨List.mem_of_getElem? hi, htext⟩
    · rintro ⟨-, htext⟩
      exact ⟨k, hat, htext⟩

theorem rowHas_identifier_iff (h : t.Keyed) {row : List String} {identifier : String} :
    t.RowHas row identifierColumn identifier ↔ t.identifier row = identifier := by
  rw [h.rowHas_iff]
  exact and_iff_right h.identified

/-! ### Rows -/

theorem get?_byIdentifier (h : t.Keyed) {identifier : String} {row : List String} :
    Sorted.get? identifier t.byIdentifier = some row ↔
      row ∈ t.rows ∧ t.identifier row = identifier := by
  have hkeys : ((t.rows.map fun row => (t.identifier row, row)).map (·.1)).Nodup := by
    rw [map_fst_identified]
    exact h.nodup_identifiers
  unfold byIdentifier
  rw [Sorted.get?_ofList_of_nodup hkeys, List.mem_map]
  constructor
  · rintro ⟨other, hother, heq⟩
    obtain ⟨hidentifier, rfl⟩ := Prod.mk.inj heq
    exact ⟨hother, hidentifier⟩
  · rintro ⟨hrow, rfl⟩
    exact ⟨row, hrow, rfl⟩

theorem holds_iff (h : t.Keyed) {identifier column text : String} :
    t.Holds identifier column text ↔
      ∃ row, Sorted.get? identifier t.byIdentifier = some row ∧
        column ∈ t.columns ∧ t.cell row column = text := by
  unfold Holds
  simp only [h.rowHas_identifier_iff, h.rowHas_iff, h.get?_byIdentifier, and_assoc]

theorem lists_iff (h : t.Keyed) {identifier : String} :
    t.Lists identifier ↔ Sorted.contains identifier t.byIdentifier = true := by
  unfold Lists Sorted.contains
  rw [Option.isSome_iff_exists]
  simp only [h.rowHas_identifier_iff, h.get?_byIdentifier]

/-- What a table says is a map. -/
theorem holds_unique (h : t.Keyed) {identifier column text text' : String}
    (hholds : t.Holds identifier column text) (hholds' : t.Holds identifier column text') :
    text = text' := by
  obtain ⟨row, hrow, -, rfl⟩ := h.holds_iff.mp hholds
  obtain ⟨row', hrow', -, rfl⟩ := h.holds_iff.mp hholds'
  rw [Option.some.inj (hrow.symm.trans hrow')]

theorem exists_holds (h : t.Keyed) {identifier column : String} (hlists : t.Lists identifier)
    (hcolumn : column ∈ t.columns) : ∃ text, t.Holds identifier column text := by
  obtain ⟨row, hrow, hidentifier⟩ := hlists
  exact ⟨t.cell row column, row, hrow, hidentifier, h.rowHas_iff.mpr ⟨hcolumn, rfl⟩⟩

theorem lists_iff_holds (h : t.Keyed) {identifier : String} :
    t.Lists identifier ↔ ∃ text, t.Holds identifier identifierColumn text :=
  ⟨fun hlists => h.exists_holds hlists h.identified,
    fun ⟨_, hholds⟩ => lists_of_holds hholds⟩

/-- In the identifier column stands the identifier itself. -/
theorem holds_identifierColumn (h : t.Keyed) {identifier text : String}
    (hholds : t.Holds identifier identifierColumn text) : text = identifier := by
  obtain ⟨row, -, hidentifier, htext⟩ := hholds
  rw [h.rowHas_identifier_iff] at hidentifier htext
  exact htext.symm.trans hidentifier

/-- Tables with the same identifiers have the same number of rows. -/
theorem length_eq {s : Table} (hs : s.Keyed) (ht : t.Keyed)
    (hsame : ∀ identifier, s.Lists identifier ↔ t.Lists identifier) :
    s.rows.length = t.rows.length := by
  have hmem : ∀ u : Table, u.Keyed → ∀ identifier,
      identifier ∈ u.rows.map u.identifier ↔ u.Lists identifier := by
    intro u hu identifier
    unfold Lists
    simp only [hu.rowHas_identifier_iff, List.mem_map]
  have hperm : (s.rows.map s.identifier).Perm (t.rows.map t.identifier) := by
    rw [List.perm_ext_iff_of_nodup hs.nodup_identifiers ht.nodup_identifiers]
    intro identifier
    rw [hmem s hs, hmem t ht, hsame]
  simpa using hperm.length_eq

end Keyed

end SopDocs.Index.Table
