import Mathlib.Data.List.Induction
import SopDocs.Proofs.Metadata
import SopDocs.Proofs.Occurrences
import SopDocs.Proofs.Text.Folding

/-!
# A record keeps first places and last values

Insertions compare keys in lower case. One either adds its key behind the others or leaves all keys
in place, so a run of insertions lists its keys where each is first; it sets the value of one key
only, so a look-up finds the last insertion for the key.
-/

namespace SopDocs

namespace Metadata

namespace Record

open Lint (addNew firstOccurrences)

def keys (record : Record) : List String := record.entries.map (·.1)

/-- The record after insertions of keys and values, one after the other. -/
def ofInsertions (insertions : List (String × String)) : Record :=
  insertions.foldl (fun record p => record.insert p.1 p.2) .empty

/-- The keys that insertions are for. -/
def insertedKeys (insertions : List (String × String)) : List String :=
  insertions.map fun p => Text.lowered p.1

theorem ofInsertions_concat (insertions : List (String × String)) (p : String × String) :
    ofInsertions (insertions ++ [p]) = (ofInsertions insertions).insert p.1 p.2 :=
  List.foldl_concat ..

/-! ### Keys -/

theorem keys_insert (record : Record) (name value : String) :
    (record.insert name value).keys = addNew record.keys (Text.lowered name) := by
  unfold keys insert
  exact keys_put (Text.lowered name) value record.entries

theorem keys_ofInsertions (insertions : List (String × String)) :
    (ofInsertions insertions).keys = firstOccurrences (insertedKeys insertions) := by
  have hadded : (ofInsertions insertions).keys = (insertedKeys insertions).foldl addNew [] := by
    induction insertions using List.reverseRecOn with
    | nil => rfl
    | append_singleton insertions p ih =>
      rw [ofInsertions_concat, keys_insert, ih, insertedKeys, insertedKeys, List.map_append,
        List.foldl_append]
      rfl
  rw [hadded, Lint.foldl_addNew, List.nil_append]
  exact List.filter_eq_self.mpr fun key _ => by simp

/-! ### Values -/

/-- The last insertion for a key has this value. -/
def LastSets (insertions : List (String × String)) (key value : String) : Prop :=
  ∃ before name after, insertions = before ++ (name, value) :: after ∧ Text.lowered name = key ∧
    ∀ later ∈ after, Text.lowered later.1 ≠ key

theorem get?_ofInsertions (insertions : List (String × String)) (key : String) :
    (ofInsertions insertions).get? key =
      (insertions.reverse.find? fun p => Text.lowered p.1 == key).map (·.2) := by
  induction insertions using List.reverseRecOn with
  | nil => rfl
  | append_singleton insertions p ih =>
    rw [ofInsertions_concat, get?_insert, ih, List.reverse_concat]
    by_cases hkey : Text.lowered p.1 = key
    · rw [if_pos hkey, List.find?_cons_of_pos (by simpa using hkey), Option.map_some]
    · rw [if_neg hkey, List.find?_cons_of_neg (by simpa using hkey)]

theorem get?_ofInsertions_eq_some_iff {insertions : List (String × String)} {key value : String} :
    (ofInsertions insertions).get? key = some value ↔ LastSets insertions key value := by
  rw [get?_ofInsertions, Option.map_eq_some_iff]
  unfold LastSets
  simp only [find?_reverse_eq_some_iff, beq_iff_eq, beq_eq_false_iff_ne]
  constructor
  · rintro ⟨⟨name, value⟩, ⟨hname, before, after, hsplit, hafter⟩, rfl⟩
    exact ⟨before, name, after, hsplit, hname, hafter⟩
  · rintro ⟨before, name, after, hsplit, hname, hafter⟩
    exact ⟨(name, value), ⟨hname, before, after, hsplit, hafter⟩, rfl⟩

theorem get?_ofInsertions_eq_none_iff {insertions : List (String × String)} {key : String} :
    (ofInsertions insertions).get? key = none ↔ ∀ p ∈ insertions, Text.lowered p.1 ≠ key := by
  rw [get?_ofInsertions, Option.map_eq_none_iff, List.find?_eq_none]
  simp only [List.mem_reverse, beq_iff_eq, ne_eq]

/-- **After any insertions a record has each key once and in lower case, in the order in which the
keys were first inserted**, and it gives for each key the value that was inserted last. -/
theorem insertions_recorded (insertions : List (String × String)) :
    (ofInsertions insertions).keys.Nodup ∧
    (∀ key ∈ (ofInsertions insertions).keys, Text.lowered key = key) ∧
    (∀ key, key ∈ (ofInsertions insertions).keys ↔ key ∈ insertedKeys insertions) ∧
    ((ofInsertions insertions).keys.Pairwise fun a b =>
      (insertedKeys insertions).idxOf a < (insertedKeys insertions).idxOf b) ∧
    ∀ key,
      (∀ value, (ofInsertions insertions).get? key = some value ↔
        LastSets insertions key value) ∧
      ((ofInsertions insertions).get? key = none ↔
        ∀ p ∈ insertions, Text.lowered p.1 ≠ key) := by
  have hmem : ∀ key, key ∈ (ofInsertions insertions).keys ↔ key ∈ insertedKeys insertions := by
    intro key
    rw [keys_ofInsertions, Lint.mem_firstOccurrences_iff]
  refine ⟨?_, ?_, hmem, ?_, ?_⟩
  · rw [keys_ofInsertions]
    exact Lint.nodup_firstOccurrences _
  · intro key hkey
    obtain ⟨p, -, rfl⟩ := List.mem_map.mp ((hmem key).mp hkey)
    exact Text.lowered_lowered p.1
  · rw [keys_ofInsertions]
    exact Lint.pairwise_idxOf_firstOccurrences _
  · exact fun key => ⟨fun _ => get?_ofInsertions_eq_some_iff, get?_ofInsertions_eq_none_iff⟩

/-- A key that comes again keeps its place, in whatever case it comes. -/
example : ofInsertions [("Topic", "Audit"), ("ΟΔΌΣ", "north"), ("TOPIC", "Access"),
    ("οδός", "south")] = ⟨[("topic", "Access"), ("οδός", "south")]⟩ := by decide +kernel

end Record

end Metadata

/-- The row of a table as an insertion, if it has two cells. -/
def MetadataTable.insertion? : Tree.Row → Option (String × String)
  | [key, value] => some (key, value)
  | _ => none

/-- The record of a table is that of its rows of two cells, in their order. -/
theorem MetadataTable.record_ofRows (rows : List Tree.Row) :
    (MetadataTable.ofRows rows).record = .ofInsertions (rows.filterMap insertion?) := by
  induction rows using List.reverseRecOn with
  | nil => rfl
  | append_singleton rows row ih =>
    rw [ofRows_concat, List.filterMap_append]
    unfold addRow
    split
    · next key value =>
      have hsome : insertion? [key, value] = some (key, value) := rfl
      rw [List.filterMap_cons_some hsome, List.filterMap_nil,
        Metadata.Record.ofInsertions_concat, ih]
    · next hrow =>
      have hnone : insertion? row = none := by
        unfold insertion?
        split
        · next key value => exact absurd rfl (hrow key value)
        · rfl
      rw [List.filterMap_cons_none hnone, List.filterMap_nil, List.append_nil]
      exact ih

end SopDocs
