import SopDocs.Metadata
import SopDocs.Proofs.Text.Case

/-!
# What a metadata table gives

The record of a table has for each key the value of the last row of two cells with this key, and
has each key once. The type that a document has, and the directory that goes with it, are read off
the value without regard to case.
-/

namespace SopDocs

namespace Metadata

/-! ### Records -/

theorem find?_put (key value : String) (entries : List (String × String)) (k : String) :
    (Record.put key value entries).find? (·.1 == k) =
      if key = k then some (key, value) else entries.find? (·.1 == k) := by
  induction entries with
  | nil => by_cases h : key = k <;> simp [Record.put, h]
  | cons entry r ih =>
    obtain ⟨k', v⟩ := entry
    rw [Record.put]
    by_cases hkey : k' = key
    · subst hkey
      by_cases hk : k' = k <;> simp [hk]
    · rw [if_neg hkey]
      by_cases hk : k' = k
      · subst hk
        simp [Ne.symm hkey]
      · simp [hk, ih]

/-- A key that is new comes last. -/
theorem keys_put (key value : String) (entries : List (String × String)) :
    (Record.put key value entries).map (·.1) =
      if key ∈ entries.map (·.1) then entries.map (·.1) else entries.map (·.1) ++ [key] := by
  induction entries with
  | nil => simp [Record.put]
  | cons entry r ih =>
    obtain ⟨k, v⟩ := entry
    rw [Record.put]
    by_cases hkey : k = key
    · simp [hkey]
    · simp only [if_neg hkey, List.map_cons, ih, List.mem_cons, Ne.symm hkey, false_or]
      split <;> rfl

namespace Record

/-- Every key is there once. -/
def Distinct (record : Record) : Prop := (record.entries.map (·.1)).Nodup

theorem get?_insert (record : Record) (name value key : String) :
    (record.insert name value).get? key =
      if Text.lowered name = key then some value else record.get? key := by
  unfold get? insert
  rw [find?_put]
  split <;> rfl

theorem distinct_insert {record : Record} (h : record.Distinct) (name value : String) :
    (record.insert name value).Distinct := by
  unfold Distinct insert
  rw [keys_put]
  split
  · exact h
  · next hnew =>
    refine List.nodup_append.mpr ⟨h, List.pairwise_singleton _ _, fun k hk last hlast heq => ?_⟩
    rw [heq, List.mem_singleton.mp hlast] at hk
    exact hnew hk

theorem mem_entries_iff {record : Record} (h : record.Distinct) {key value : String} :
    (key, value) ∈ record.entries ↔ record.get? key = some value := by
  obtain ⟨entries⟩ := record
  unfold Distinct at h
  unfold get?
  dsimp only at h ⊢
  induction entries with
  | nil => simp
  | cons entry r ih =>
    obtain ⟨k, v⟩ := entry
    rw [List.map_cons, List.nodup_cons] at h
    rw [List.mem_cons, Prod.mk.injEq]
    by_cases hk : k = key
    · subst hk
      have hnot : (k, value) ∉ r := fun hmem => h.1 (List.mem_map.mpr ⟨_, hmem, rfl⟩)
      simp [hnot, eq_comm]
    · rw [List.find?_cons_of_neg (by simpa using hk), ← ih h.2]
      simp [Ne.symm hk]

end Record

/-! ### Types of documents -/

/-- The directory of documents of a type. -/
def SopType.directory : SopType → String
  | nodeSpecific => "node-specific"
  | europeanLevel => "european-level"

variable {t : SopType} {value : String}

theorem SopType.parse?_of_label (h : Text.lowered t.label = Text.lowered value) :
    SopType.parse? value = some t := by
  have hlower : Text.lower value.toList = Text.lower t.label.toList :=
    (String.ofList_injective h).symm
  have htrimmed : Text.lowered (Text.trimmed value) = Text.lowered t.label := by
    have hlabel : Text.trim (Text.lower t.label.toList) = Text.lower t.label.toList := by
      cases t <;> decide
    unfold Text.lowered Text.trimmed
    rw [String.toList_ofList, ← Text.trim_lower, hlower, hlabel]
  unfold SopType.parse?
  simp only [htrimmed]
  cases t <;> decide

theorem expectedDirectory?_of_label (h : Text.lowered t.label = Text.lowered value) :
    expectedDirectory? value = some t.directory := by
  have hlower : Text.lower value.toList = Text.lower t.label.toList :=
    (String.ofList_injective h).symm
  have hword : expectedDirectory? value =
      (Text.firstWord? (Text.lower value.toList)).map String.ofList := by
    unfold expectedDirectory? Text.lowered
    rw [Text.firstWord?_lower, Option.map_map]
    simp only [String.toList_ofList, Function.comp_def]
  rw [hword, hlower]
  cases t <;> decide

/-- No directory without a name is asked for. -/
theorem expectedDirectory?_ne {name : String} (h : expectedDirectory? value = some name) :
    name ≠ "" := by
  obtain ⟨word, hword, rfl⟩ := Option.map_eq_some_iff.mp h
  have hlower := Text.lower_ne_nil (Text.ne_nil_of_firstWord? hword)
  intro hempty
  rw [Text.lowered, String.toList_ofList] at hempty
  exact hlower (String.ofList_injective hempty)

end Metadata

/-! ### Tables -/

namespace MetadataTable

open Metadata (Record)

/-- What a row gives for a key. -/
def given? (key : String) : Tree.Row → Option String
  | [name, value] => if Text.lowered name = key then some value else none
  | _ => none

/-- What the last row with a key gives for it. -/
def lastGiven? (rows : List Tree.Row) (key : String) : Option String :=
  rows.reverse.findSome? (given? key)

theorem get?_addRow (t : MetadataTable) (row : Tree.Row) (key : String) :
    (t.addRow row).record.get? key = (given? key row).or (t.record.get? key) := by
  unfold addRow
  split
  · next name value =>
    rw [Record.get?_insert, given?]
    split <;> rfl
  · next hrow =>
    unfold given?
    split
    · next name value => exact absurd rfl (hrow name value)
    · rfl

theorem distinct_addRow {t : MetadataTable} (h : t.record.Distinct) (row : Tree.Row) :
    (t.addRow row).record.Distinct := by
  unfold addRow
  split
  · exact Record.distinct_insert h _ _
  · exact h

theorem malformedRows_addRow (t : MetadataTable) (row : Tree.Row) :
    (t.addRow row).malformedRows =
      if row.length = 2 then t.malformedRows else t.malformedRows ++ [row] := by
  unfold addRow
  split
  · rfl
  · next hrow =>
    have hlength : row.length ≠ 2 := fun htwo => by
      obtain ⟨name, value, rfl⟩ := List.length_eq_two.mp htwo
      exact hrow name value rfl
    rw [if_neg hlength]

theorem ofRows_concat (rows : List Tree.Row) (row : Tree.Row) :
    ofRows (rows ++ [row]) = (ofRows rows).addRow row :=
  List.foldl_concat ..

variable (rows : List Tree.Row)

theorem get?_ofRows (key : String) : (ofRows rows).record.get? key = lastGiven? rows key := by
  induction rows using List.reverseRecOn with
  | nil => rfl
  | append_singleton rows row ih =>
    rw [ofRows_concat, get?_addRow, ih, lastGiven?, lastGiven?, List.reverse_concat,
      List.findSome?_cons]
    cases given? key row <;> rfl

theorem distinct_ofRows : (ofRows rows).record.Distinct := by
  induction rows using List.reverseRecOn with
  | nil => exact List.nodup_nil
  | append_singleton rows row ih =>
    rw [ofRows_concat]
    exact distinct_addRow ih row

theorem malformedRows_ofRows :
    (ofRows rows).malformedRows = rows.filter fun row => row.length ≠ 2 := by
  induction rows using List.reverseRecOn with
  | nil => rfl
  | append_singleton rows row ih =>
    rw [ofRows_concat, malformedRows_addRow, ih, List.filter_append]
    by_cases hlength : row.length = 2 <;> simp [hlength]

end MetadataTable

end SopDocs
