import SopDocs.Index.Entry
import SopDocs.Proofs.Lint.Severity

/-!
# A document that two rules accept has an entry in the index

The rules on the metadata table and on the document history read the same tables as
the index does. Where they report no error, the one thing that can still keep a
document out of the index is a history without rows, about which the rule has
nothing to say.
-/

namespace SopDocs.Lint

open Metadata

/-! ### The metadata table -/

theorem mem_entries_of_contains {record : Record} {key : String}
    (h : record.contains key = true) : (key, record.value key) ∈ record.entries := by
  unfold Record.contains Record.get? at h
  unfold Record.value Record.get?
  cases hfound : record.entries.find? (·.1 == key) with
  | none => simp [hfound] at h
  | some entry =>
    have hkey : entry.1 = key := by simpa using List.find?_some hfound
    have hmem := List.mem_of_find?_eq_some hfound
    rw [← hkey]
    exact hmem

/-- Only the values of node keys are ever skipped. -/
theorem isChecked_of_not_node {key : String} (hkey : key ∉ nodeKeys) (record : Record)
    (value : String) : isChecked record key value = true := by
  rw [isChecked, if_neg fun h => hkey (List.contains_iff_mem.mp h)]

theorem isChecked_of_base {key : String} (hkey : key ∈ baseKeys) (record : Record)
    (value : String) : isChecked record key value = true := by
  have hapart : ∀ key ∈ baseKeys, key ∉ nodeKeys := by decide
  exact isChecked_of_not_node (hapart key hkey) record value

/-- What the index asks of a record: the values that every document has are valid. -/
structure ValidBase (c : Conventions) (record : Record) : Prop where
  identifier : c.startsWithIdentifier (record.value identifierKey) = true
  version : Version.isValid (record.value versionKey) = true
  topic : isChoice topics (record.value topicKey) = true
  sopType : isChoice typeLabels (record.value typeKey) = true

/-- The problems of a base value are problems of the table. -/
theorem metadataValue_subset {c : Conventions} {path : Path} {table : MetadataTable} {key : String}
    (hkey : key ∈ baseKeys) (hin : table.record.contains key = true) {p : Problem}
    (hp : p ∈ metadataValue c key (table.record.value key)) :
    p ∈ metadataProblems c path table := by
  have hmem : p ∈ metadataValues c table.record := by
    unfold metadataValues
    rw [List.mem_flatMap]
    refine ⟨(key, table.record.value key), ?_, hp⟩
    rw [List.mem_filter]
    exact ⟨mem_entries_of_contains hin, isChecked_of_base hkey _ _⟩
  simp only [metadataProblems, List.mem_append]
  exact Or.inl (Or.inl (Or.inl (Or.inl (Or.inr hmem))))

theorem contains_of_clean {c : Conventions} {path : Path} {table : MetadataTable}
    (hclean : ∀ p ∈ metadataProblems c path table, p.isError = false) {key : String}
    (hkey : key ∈ baseKeys) : table.record.contains key = true := by
  cases hin : table.record.contains key with
  | true => rfl
  | false =>
    have hmissing : key ∈ missingKeys table.record baseKeys :=
      List.mem_filter.mpr ⟨hkey, by simp [hin]⟩
    have hproblem : Problem.missingMetadata key ∈ metadataProblems c path table := by
      simp only [metadataProblems, List.mem_append]
      exact Or.inl (Or.inl (Or.inl (Or.inr (List.mem_map_of_mem hmissing))))
    exact Bool.noConfusion (hclean _ hproblem)

theorem malformedRows_of_clean {c : Conventions} {path : Path} {table : MetadataTable}
    (hclean : ∀ p ∈ metadataProblems c path table, p.isError = false) :
    table.malformedRows = [] := by
  cases hrows : table.malformedRows with
  | nil => rfl
  | cons row rows =>
    have hproblem : Problem.metadataRow row ∈ metadataProblems c path table := by
      simp [metadataProblems, hrows]
    exact Bool.noConfusion (hclean _ hproblem)

section Values

variable (c : Conventions) (value : String)

theorem metadataValue_identifier :
    metadataValue c identifierKey value =
      if c.startsWithIdentifier value then []
      else [.metadataPattern identifierKey value c.identifierPattern] := by
  simp [metadataValue]

theorem metadataValue_version :
    metadataValue c versionKey value =
      if Version.isValid value then [] else [.metadataFormat versionKey value] := by
  have hkey : versionKey ≠ identifierKey ∧ versionKey ≠ nodeKey := by decide
  simp [metadataValue, hkey]

theorem metadataValue_topic :
    metadataValue c topicKey value =
      if isChoice topics value then [] else [.metadataChoice topicKey value topics] := by
  have hkey : topicKey ≠ identifierKey ∧ topicKey ≠ nodeKey ∧ topicKey ≠ versionKey ∧
      topicKey ≠ instanceKey := by decide
  simp [metadataValue, hkey]

theorem metadataValue_type :
    metadataValue c typeKey value =
      if isChoice typeLabels value then [] else [.metadataChoice typeKey value typeLabels] := by
  have hkey : typeKey ≠ identifierKey ∧ typeKey ≠ nodeKey ∧ typeKey ≠ versionKey ∧
      typeKey ≠ instanceKey ∧ typeKey ≠ topicKey := by decide
  simp [metadataValue, hkey]

end Values

/-- A check with one problem that is an error holds where no error is reported. -/
theorem holds_of_clean {test : Bool} {problem : Problem} (herror : problem.isError = true)
    (hclean : ∀ p ∈ (if test then [] else [problem]), p.isError = false) : test = true := by
  cases test with
  | true => rfl
  | false =>
    have hfalse := hclean problem (List.mem_singleton.mpr rfl)
    exact absurd (herror.symm.trans hfalse) (by decide)

/-- The values of a table without errors that the index reads are valid. -/
theorem validBase_of_clean {c : Conventions} {path : Path} {table : MetadataTable}
    (hclean : ∀ p ∈ metadataProblems c path table, p.isError = false) :
    ValidBase c table.record := by
  have hvalue : ∀ key ∈ baseKeys, ∀ p ∈ metadataValue c key (table.record.value key),
      p.isError = false := fun key hkey p hp =>
    hclean p (metadataValue_subset hkey (contains_of_clean hclean hkey) hp)
  have hidentifier := hvalue identifierKey (by decide)
  have hversion := hvalue versionKey (by decide)
  have htopic := hvalue topicKey (by decide)
  have htype := hvalue typeKey (by decide)
  rw [metadataValue_identifier] at hidentifier
  rw [metadataValue_version] at hversion
  rw [metadataValue_topic] at htopic
  rw [metadataValue_type] at htype
  exact {
    identifier := holds_of_clean rfl hidentifier
    version := holds_of_clean rfl hversion
    topic := holds_of_clean rfl htopic
    sopType := holds_of_clean rfl htype }

/-- The index reads a record with valid base values from a document without errors in its
metadata table. -/
theorem metadataOf_of_clean {ctx : Context} {strict : Bool}
    (h : (Rule.metadataTable.check ctx strict .empty).hasErrors = false) (label : String) :
    ∃ record, Index.metadataOf label ctx.root = .ok record ∧ ValidBase ctx.conventions record := by
  have hclean : ∀ p ∈ metadataTable ctx, p.isError = false := fun p hp =>
    Findings.isError_eq_false_of_hasErrors h hp
  unfold metadataTable at hclean
  unfold Index.metadataOf
  cases htable : Tree.tableWith? Tree.metadataHeader ctx.root with
  | none =>
    rw [htable] at hclean
    exact Bool.noConfusion (hclean .noMetadataTable (List.mem_singleton.mpr rfl))
  | some node =>
    rw [htable] at hclean
    refine ⟨(MetadataTable.ofTable node).record, ?_, validBase_of_clean hclean⟩
    simp [malformedRows_of_clean hclean]

/-! ### The document history -/

theorem isHistoryRow_of_clean {above : Option RowVersions} {row : Tree.Row}
    (hclean : ∀ p ∈ historyRowProblems above row, p.isError = false) :
    ∃ template instanceCell author description date,
      row = [template, instanceCell, author, description, date] := by
  unfold historyRowProblems at hclean
  split at hclean
  · exact ⟨_, _, _, _, _, rfl⟩
  · exact Bool.noConfusion (hclean (.historyRow _) (List.mem_singleton.mpr rfl))

/-- A document has no history to show: its history table has a header only. -/
def HasEmptyHistory (root : Tree.Node) : Prop :=
  ∃ table, Tree.tableWith? Tree.historyHeader root = some table ∧ table.bodyRows = []

/-- Of a history without errors the newest date can be read, if there is a row. -/
theorem newestDate_of_clean {ctx : Context} {strict : Bool}
    (h : (Rule.documentHistory.check ctx strict .empty).hasErrors = false) (label : String) :
    (HasEmptyHistory ctx.root ∧ History.newestDate ctx.root label = .error (.emptyHistory label)) ∨
    (¬ HasEmptyHistory ctx.root ∧ ∃ date, History.newestDate ctx.root label = .ok date) := by
  have hclean : ∀ p ∈ documentHistory ctx, p.isError = false := fun p hp =>
    Findings.isError_eq_false_of_hasErrors h hp
  unfold documentHistory at hclean
  unfold History.newestDate HasEmptyHistory
  cases htable : Tree.tableWith? Tree.historyHeader ctx.root with
  | none =>
    rw [htable] at hclean
    exact Bool.noConfusion (hclean .noHistoryTable (List.mem_singleton.mpr rfl))
  | some table =>
    rw [htable] at hclean
    cases hrows : History.rows table with
    | nil =>
      have hbody : table.bodyRows = [] := by simpa [History.rows] using hrows
      exact Or.inl ⟨⟨table, rfl, hbody⟩, by simp [hrows]⟩
    | cons row rest =>
      have hbody : table.bodyRows ≠ [] := by
        intro hnil
        simp [History.rows, hnil] at hrows
      have hrow : ∀ p ∈ historyRowProblems none row, p.isError = false := fun p hp =>
        hclean p (by simp [hrows, historyProblems, hp])
      obtain ⟨template, instanceCell, author, description, date, rfl⟩ := isHistoryRow_of_clean hrow
      refine Or.inr ⟨?_, date, by simp [hrows]⟩
      rintro ⟨other, hother, hnil⟩
      rw [Option.some.inj hother] at hbody
      exact hbody hnil

/-! ### Entries -/

/-- What a reader of the index may rely on. -/
structure ValidEntry (c : Conventions) (entry : Index.Entry) : Prop where
  identifier : c.startsWithIdentifier entry.identifier = true
  templateVersion : ∃ v, Version.parse? entry.templateVersion = some v
  topic : ∃ t ∈ topics, Text.lowered t = Text.lowered entry.topic
  sopType : ∃ t ∈ typeLabels, Text.lowered t = Text.lowered entry.sopType

theorem isChoice_iff {choices : List String} {value : String} :
    isChoice choices value = true ↔
      ∃ choice ∈ choices, Text.lowered choice = Text.lowered value := by
  simp [isChoice]

/-- **A document that the two rules accept is in the index, with valid values, unless
its history has no row.** -/
theorem entryFor_of_clean (ctx : Context) (strict : Bool)
    (hmetadata : (Rule.metadataTable.check ctx strict .empty).hasErrors = false)
    (hhistory : (Rule.documentHistory.check ctx strict .empty).hasErrors = false) :
    ((∃ failure, Index.entryFor ctx.path ctx.root = .error failure) ↔
      HasEmptyHistory ctx.root) ∧
    (¬ HasEmptyHistory ctx.root →
      ∃ entry, Index.entryFor ctx.path ctx.root = .ok entry ∧
        ValidEntry ctx.conventions entry) := by
  obtain ⟨record, hrecord, hvalid⟩ := metadataOf_of_clean hmetadata ctx.path.text
  have hentry : Index.entryFor ctx.path ctx.root =
      (History.lastModified ctx.root ctx.path.text).map fun lastModified => {
        name := Index.documentLink ctx.path
        identifier := record.value identifierKey
        templateVersion := record.value versionKey
        topic := record.value topicKey
        sopType := record.value typeKey
        node := record.value nodeKey
        instanceVersion := record.value instanceKey
        steps := Procedure.countSteps ctx.root
        lastModified } := by
    unfold Index.entryFor
    rw [hrecord]
    cases History.lastModified ctx.root ctx.path.text <;> rfl
  unfold History.lastModified at hentry
  rcases newestDate_of_clean hhistory ctx.path.text with ⟨hempty, hdate⟩ | ⟨hrows, date, hdate⟩
  · rw [hdate] at hentry
    exact ⟨⟨fun _ => hempty, fun _ => ⟨_, hentry⟩⟩, fun hrows => absurd hempty hrows⟩
  · rw [hdate] at hentry
    refine ⟨⟨?_, fun hempty => absurd hempty hrows⟩, fun _ => ⟨_, hentry, ?_⟩⟩
    · rintro ⟨failure, hfailure⟩
      rw [hentry] at hfailure
      cases hfailure
    · exact {
        identifier := hvalid.identifier
        templateVersion := Option.isSome_iff_exists.mp hvalid.version
        topic := isChoice_iff.mp hvalid.topic
        sopType := isChoice_iff.mp hvalid.sopType }

/-! ### A document with an unknown key -/

/-- A table with the given cell texts, header first. -/
def textTable (rows : List Tree.Row) : Tree.Node :=
  let cell (text : String) : Tree.Node :=
    ⟨.tableCell, ⟨0, 0⟩, none, .none, [⟨.str, ⟨0, 0⟩, some text, .none, []⟩]⟩
  ⟨.table, ⟨0, 0⟩, none, .none,
    rows.map fun row => ⟨.tableRow, ⟨0, 0⟩, none, .none, row.map cell⟩⟩

/-- A document with a repeated key and a key that nothing is known about. -/
def ownedDocument : Context where
  path := ⟨"european-level/GDI-SOP0001_access.md"⟩
  root := ⟨.document, ⟨0, 0⟩, none, .none, [
    textTable [Tree.metadataHeader, ["Template SOP number", "none"],
      ["template sop NUMBER", "GDI-SOP0001"], ["Template SOP version", "v1.0"],
      ["Topic", "HELPDESK & operations"], ["Template SOP type", "European-level SOP"],
      ["Owner", "the helpdesk"]],
    textTable [Tree.historyHeader, ["v1.0", "", "A", "First version", "2024.01.01"]]]⟩
  conventions := .ofConfig .standard
  inputs := []
  charter := .empty
  found := fun _ => false
  probe := none

theorem entryFor_ownedDocument :
    (Rule.metadataTable.check ownedDocument false .empty).hasErrors = false ∧
    (Rule.documentHistory.check ownedDocument false .empty).hasErrors = false ∧
    ((∃ failure, Index.entryFor ownedDocument.path ownedDocument.root = .error failure) ↔
      HasEmptyHistory ownedDocument.root) ∧
    (¬ HasEmptyHistory ownedDocument.root →
      ∃ entry, Index.entryFor ownedDocument.path ownedDocument.root = .ok entry ∧
        ValidEntry ownedDocument.conventions entry) := by
  have hmetadata : (Rule.metadataTable.check ownedDocument false .empty).hasErrors = false := by
    decide +kernel
  have hhistory : (Rule.documentHistory.check ownedDocument false .empty).hasErrors = false := by
    decide +kernel
  exact ⟨hmetadata, hhistory, entryFor_of_clean ownedDocument false hmetadata hhistory⟩

end SopDocs.Lint
