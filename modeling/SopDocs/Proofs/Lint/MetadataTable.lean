import SopDocs.Proofs.Index.CleanDocument
import SopDocs.Proofs.Metadata
import SopDocs.Proofs.Naming
import SopDocs.Proofs.Text.Word

/-!
# What the rule on the metadata table accepts

The rule looks at the values of a record in one loop, skips node values that do not apply, asks
for missing keys in two more steps and for the directory in a last one. It finds nothing exactly
if the record is valid as a whole: the steps add up to one condition for each key, with the type
of the document deciding about the node values and the directory.
-/

namespace SopDocs.Lint

open Metadata

/-! ### Valid metadata -/

/-- The keys that something is known about. -/
def knownKeys : List String := baseKeys ++ nodeKeys

/-- Three capital letters of ASCII. -/
def IsNodeCode (value : String) : Prop :=
  value.toList.length = 3 ∧ ∀ c ∈ value.toList, 'A' ≤ c ∧ c ≤ 'Z'

/-- The node values that go with a type: none, or all of them if the document is for a node. -/
def FitNodeValues (t : SopType) (value? : String → Option String) : Prop :=
  (∀ key ∈ nodeKeys, ∀ value, value? key = some value → value = "") ∨
    t = .nodeSpecific ∧ ∃ node version, value? nodeKey = some node ∧ IsNodeCode node ∧
      value? instanceKey = some version ∧ Version.isValid version = true

/-- A path is in a directory with the given name. -/
def IsIn (path : Path) (name : String) : Prop :=
  ∃ directory, path.parent? = some directory ∧ directory.fileName? = some name

/-- What is asked of the values that a metadata table gives. -/
structure ValidMetadata (c : Conventions) (path : Path) (value? : String → Option String) :
    Prop where
  known : ∀ key value, value? key = some value → key ∈ knownKeys
  identifier : ∃ value, value? identifierKey = some value ∧
    Pattern.Finds c.identifierPattern value.toList []
  version : ∃ value, value? versionKey = some value ∧ Version.isValid value = true
  topic : ∃ value, value? topicKey = some value ∧
    ∃ topic ∈ topics, Text.lowered topic = Text.lowered value
  sopType : ∃ value, value? typeKey = some value ∧ ∃ t : SopType,
    Text.lowered t.label = Text.lowered value ∧ FitNodeValues t value? ∧ IsIn path t.directory

/-! ### Single values -/

section Values

variable {c : Conventions} {value : String}

theorem ite_nil_eq_nil_iff {test : Bool} {problem : Problem} :
    (if test then [] else [problem]) = [] ↔ test = true := by
  cases test <;> simp

theorem isNodeCode_iff : isNodeCode value = true ↔ IsNodeCode value := by
  simp only [isNodeCode, IsNodeCode, Bool.and_eq_true, beq_iff_eq, List.all_eq_true,
    Text.isUpper_iff]

theorem metadataValue_identifier_eq_nil_iff :
    metadataValue c identifierKey value = [] ↔
      Pattern.Finds c.identifierPattern value.toList [] := by
  rw [metadataValue_identifier, ite_nil_eq_nil_iff, Conventions.startsWithIdentifier_iff,
    Conventions.finds_identifierPattern_iff]

theorem metadataValue_version_eq_nil_iff :
    metadataValue c versionKey value = [] ↔ Version.isValid value = true := by
  rw [metadataValue_version, ite_nil_eq_nil_iff]

theorem metadataValue_topic_eq_nil_iff :
    metadataValue c topicKey value = [] ↔
      ∃ topic ∈ topics, Text.lowered topic = Text.lowered value := by
  rw [metadataValue_topic, ite_nil_eq_nil_iff, isChoice_iff]

theorem metadataValue_type_eq_nil_iff :
    metadataValue c typeKey value = [] ↔
      ∃ t : SopType, Text.lowered t.label = Text.lowered value := by
  rw [metadataValue_type, ite_nil_eq_nil_iff, isChoice_iff]
  constructor
  · rintro ⟨label, hlabel, hvalue⟩
    simp only [typeLabels, List.mem_cons, List.not_mem_nil, or_false] at hlabel
    rcases hlabel with rfl | rfl
    · exact ⟨.nodeSpecific, hvalue⟩
    · exact ⟨.europeanLevel, hvalue⟩
  · rintro ⟨t, hvalue⟩
    exact ⟨t.label, by cases t <;> decide, hvalue⟩

theorem metadataValue_node (c : Conventions) (value : String) :
    metadataValue c nodeKey value =
      if isNodeCode value then [] else [.metadataPattern nodeKey value nodeCodePattern] := by
  have hkey : nodeKey ≠ identifierKey := by decide
  rw [metadataValue, if_neg hkey, if_pos rfl]

theorem metadataValue_instance (c : Conventions) (value : String) :
    metadataValue c instanceKey value =
      if Version.isValid value then [] else [.metadataFormat instanceKey value] := by
  have hkey : instanceKey ≠ identifierKey ∧ instanceKey ≠ nodeKey := by decide
  rw [metadataValue, if_neg hkey.1, if_neg hkey.2, if_pos (Or.inr rfl)]

theorem metadataValue_node_eq_nil_iff :
    metadataValue c nodeKey value = [] ↔ IsNodeCode value := by
  rw [metadataValue_node, ite_nil_eq_nil_iff, isNodeCode_iff]

theorem metadataValue_instance_eq_nil_iff :
    metadataValue c instanceKey value = [] ↔ Version.isValid value = true := by
  rw [metadataValue_instance, ite_nil_eq_nil_iff]

theorem mem_knownKeys_iff {key : String} : key ∈ knownKeys ↔ key = identifierKey ∨
    key = versionKey ∨ key = topicKey ∨ key = typeKey ∨ key = nodeKey ∨ key = instanceKey := by
  simp [knownKeys, baseKeys, nodeKeys]

theorem isError_of_mem_ite {test : Bool} {problem p : Problem} (h : problem.isError = true)
    (hp : p ∈ (if test then [] else [problem])) : p.isError = true := by
  split at hp
  · cases hp
  · rw [List.mem_singleton.mp hp, h]

/-- The value of a known key can only be in error. -/
theorem isError_of_mem_metadataValue {key : String} (hkey : key ∈ knownKeys) {p : Problem}
    (hp : p ∈ metadataValue c key value) : p.isError = true := by
  rcases mem_knownKeys_iff.mp hkey with rfl | rfl | rfl | rfl | rfl | rfl
  · rw [metadataValue_identifier] at hp
    exact isError_of_mem_ite rfl hp
  · rw [metadataValue_version] at hp
    exact isError_of_mem_ite rfl hp
  · rw [metadataValue_topic] at hp
    exact isError_of_mem_ite rfl hp
  · rw [metadataValue_type] at hp
    exact isError_of_mem_ite rfl hp
  · rw [metadataValue_node] at hp
    exact isError_of_mem_ite rfl hp
  · rw [metadataValue_instance] at hp
    exact isError_of_mem_ite rfl hp

theorem metadataValue_of_unknown (c : Conventions) {key : String} (hkey : key ∉ knownKeys)
    (value : String) : metadataValue c key value = [.unexpectedMetadata key value] := by
  simp only [mem_knownKeys_iff, not_or] at hkey
  obtain ⟨hidentifier, hversion, htopic, htype, hnode, hinstance⟩ := hkey
  rw [metadataValue, if_neg hidentifier, if_neg hnode, if_neg (not_or.mpr ⟨hversion, hinstance⟩),
    if_neg htopic, if_neg htype]

/-- A key that nothing is known about is the only thing that a value is warned about. -/
theorem warnings_metadataValue (c : Conventions) (key value : String) :
    (metadataValue c key value).filter (! Problem.isError ·) =
      if decide (key ∉ knownKeys) then [.unexpectedMetadata key value] else [] := by
  by_cases hkey : key ∈ knownKeys
  · rw [if_neg (by simpa using hkey)]
    exact List.filter_eq_nil_iff.mpr fun p hp => by simp [isError_of_mem_metadataValue hkey hp]
  · rw [if_pos (by simpa using hkey), metadataValue_of_unknown c hkey]
    rfl

theorem isChecked_of_unknown {key : String} (hkey : key ∉ knownKeys) (record : Record)
    (value : String) : isChecked record key value = true :=
  isChecked_of_not_node (fun hnode => hkey (List.mem_append_right _ hnode)) record value

end Values

/-! ### Records -/

section Records

variable {c : Conventions} {path : Path} {record : Record} {t : SopType} {value : String}

theorem metadataValues_eq_nil_iff (h : record.Distinct) :
    metadataValues c record = [] ↔ ∀ key value, record.get? key = some value →
      isChecked record key value = true → metadataValue c key value = [] := by
  unfold metadataValues
  rw [List.flatMap_eq_nil_iff]
  constructor
  · intro hnil key value hvalue hchecked
    exact hnil (key, value)
      (List.mem_filter.mpr ⟨(Record.mem_entries_iff h).mpr hvalue, hchecked⟩)
  · rintro hnil ⟨key, value⟩ hentry
    obtain ⟨hmem, hchecked⟩ := List.mem_filter.mp hentry
    exact hnil key value ((Record.mem_entries_iff h).mp hmem) hchecked

theorem missingKeys_eq_nil_iff {keys : List String} :
    missingKeys record keys = [] ↔ ∀ key ∈ keys, ∃ value, record.get? key = some value := by
  simp only [missingKeys, Record.contains, List.filter_eq_nil_iff, Bool.not_eq_true',
    Bool.not_eq_false, Option.isSome_iff_exists]

theorem hasNodeValues_eq_false_iff :
    hasNodeValues record = false ↔
      ∀ key ∈ nodeKeys, ∀ value, record.get? key = some value → value = "" := by
  have hvalue : ∀ key, record.value key = "" ↔
      ∀ value, record.get? key = some value → value = "" := by
    intro key
    unfold Record.value
    cases record.get? key <;> simp
  simp only [hasNodeValues, List.any_eq_false, bne_iff_ne, not_not, hvalue]

theorem sopType?_of_label (hvalue : record.get? typeKey = some value)
    (h : Text.lowered t.label = Text.lowered value) : record.sopType? = some t := by
  rw [Record.sopType?, hvalue, Option.bind_some, SopType.parse?_of_label h]

theorem directoryName_eq_iff {name : String} (h : name ≠ "") :
    directoryName path = name ↔ IsIn path name := by
  unfold directoryName IsIn
  cases hparent : path.parent? with
  | none => simp [Ne.symm h]
  | some directory => cases hname : directory.fileName? <;> simp [hname, Ne.symm h]

theorem metadataDirectory_eq_nil_iff (hvalue : record.get? typeKey = some value)
    (h : Text.lowered t.label = Text.lowered value) :
    metadataDirectory path record = [] ↔ IsIn path t.directory := by
  have hname : t.directory ≠ "" := by cases t <;> decide
  rw [← directoryName_eq_iff hname, metadataDirectory, hvalue]
  simp only [expectedDirectory?_of_label h]
  split <;> simp_all

theorem isChecked_of_node {key : String} (hkey : key ∈ nodeKeys) :
    isChecked record key value = true ↔
      record.sopType? ≠ some .europeanLevel ∧ (value ≠ "" ∨ needsNodeKeys record = true) := by
  rw [isChecked, if_pos (List.contains_iff_mem.mpr hkey)]
  simp only [Bool.and_eq_true, Bool.or_eq_true, bne_iff_ne]

/-- Keys are there with values that nothing is wrong with. -/
theorem validKeys_iff {keys : List String} :
    (∀ key ∈ keys, ∃ value, record.get? key = some value ∧ metadataValue c key value = []) ↔
      missingKeys record keys = [] ∧ ∀ key ∈ keys, ∀ value, record.get? key = some value →
        metadataValue c key value = [] := by
  rw [missingKeys_eq_nil_iff]
  constructor
  · intro h
    refine ⟨fun key hkey => ?_, fun key hkey value hvalue => ?_⟩
    · obtain ⟨value, hvalue, -⟩ := h key hkey
      exact ⟨value, hvalue⟩
    · obtain ⟨value', hvalue', hnil⟩ := h key hkey
      obtain rfl := Option.some.inj (hvalue.symm.trans hvalue')
      exact hnil
  · rintro ⟨hthere, hnil⟩ key hkey
    obtain ⟨value, hvalue⟩ := hthere key hkey
    exact ⟨value, hvalue, hnil key hkey value hvalue⟩

theorem baseValues_iff {value? : String → Option String} :
    (∀ key ∈ baseKeys, ∃ value, value? key = some value ∧ metadataValue c key value = []) ↔
      (∃ value, value? identifierKey = some value ∧
        Pattern.Finds c.identifierPattern value.toList []) ∧
      (∃ value, value? versionKey = some value ∧ Version.isValid value = true) ∧
      (∃ value, value? topicKey = some value ∧
        ∃ topic ∈ topics, Text.lowered topic = Text.lowered value) ∧
      ∃ value, value? typeKey = some value ∧
        ∃ t : SopType, Text.lowered t.label = Text.lowered value := by
  simp only [baseKeys, List.mem_cons, List.not_mem_nil, or_false, forall_eq_or_imp, forall_eq,
    metadataValue_identifier_eq_nil_iff, metadataValue_version_eq_nil_iff,
    metadataValue_topic_eq_nil_iff, metadataValue_type_eq_nil_iff]

theorem nodeValues_iff {value? : String → Option String} :
    (∀ key ∈ nodeKeys, ∃ value, value? key = some value ∧ metadataValue c key value = []) ↔
      ∃ node version, value? nodeKey = some node ∧ IsNodeCode node ∧
        value? instanceKey = some version ∧ Version.isValid version = true := by
  simp only [nodeKeys, List.mem_cons, List.not_mem_nil, or_false, forall_eq_or_imp, forall_eq,
    metadataValue_node_eq_nil_iff, metadataValue_instance_eq_nil_iff]
  constructor
  · rintro ⟨⟨node, hnode, hcode⟩, version, hversion, hvalid⟩
    exact ⟨node, version, hnode, hcode, hversion, hvalid⟩
  · rintro ⟨node, version, hnode, hcode, hversion, hvalid⟩
    exact ⟨⟨node, hnode, hcode⟩, version, hversion, hvalid⟩

/-- The three steps that look at node values ask together for what fits the type. -/
theorem fitNodeValues_iff (htype : record.sopType? = some t) :
    FitNodeValues t record.get? ↔
      (∀ key ∈ nodeKeys, ∀ value, record.get? key = some value →
        isChecked record key value = true → metadataValue c key value = []) ∧
      (needsNodeKeys record = true → missingKeys record nodeKeys = []) ∧
      ¬ (record.sopType? = some .europeanLevel ∧ hasNodeValues record = true) := by
  have hneeds : needsNodeKeys record = true ↔ t = .nodeSpecific ∧ hasNodeValues record = true := by
    simp [needsNodeKeys, htype]
  rw [FitNodeValues, ← hasNodeValues_eq_false_iff, ← nodeValues_iff (c := c), validKeys_iff]
  cases hvalues : hasNodeValues record with
  | false =>
    -- Without node values the loop skips their keys.
    have hfree : needsNodeKeys record ≠ true := by simp [hneeds, hvalues]
    refine iff_of_true (Or.inl rfl) ⟨fun key hkey value hvalue hchecked => ?_,
      fun h => absurd h hfree, fun h => Bool.false_ne_true h.2⟩
    obtain ⟨-, hne | h⟩ := (isChecked_of_node hkey).mp hchecked
    · exact absurd (hasNodeValues_eq_false_iff.mp hvalues key hkey value hvalue) hne
    · exact absurd h hfree
  | true =>
    cases t with
    | europeanLevel =>
      refine iff_of_false ?_ fun h => h.2.2 ⟨htype, rfl⟩
      rintro (h | ⟨h, -⟩) <;> cases h
    | nodeSpecific =>
      have hneeded : needsNodeKeys record = true := hneeds.mpr ⟨rfl, hvalues⟩
      constructor
      · rintro (h | ⟨-, hthere, hnil⟩)
        · cases h
        · exact ⟨fun key hkey value hvalue _ => hnil key hkey value hvalue, fun _ => hthere,
            by simp [htype]⟩
      · rintro ⟨hnil, hthere, -⟩
        refine Or.inr ⟨rfl, hthere hneeded, fun key hkey value hvalue => ?_⟩
        have hchecked : isChecked record key value = true :=
          (isChecked_of_node hkey).mpr ⟨by simp [htype], Or.inr hneeded⟩
        exact hnil key hkey value hvalue hchecked

/-- All steps together find nothing exactly if the metadata are valid. -/
theorem metadataProblems_eq_nil_iff {table : MetadataTable} (h : table.record.Distinct) :
    metadataProblems c path table = [] ↔
      table.malformedRows = [] ∧ ValidMetadata c path table.record.get? := by
  simp only [metadataProblems, List.append_eq_nil_iff, List.map_eq_nil_iff, ite_eq_right_iff,
    List.cons_ne_nil, imp_false, metadataValues_eq_nil_iff h]
  constructor
  · rintro ⟨⟨⟨⟨⟨hrows, hvalues⟩, hbase⟩, hneeds⟩, hlevel⟩, hdirectory⟩
    have hvalid := validKeys_iff.mpr ⟨hbase, fun key hkey value hvalue =>
      hvalues key value hvalue (isChecked_of_base hkey _ _)⟩
    obtain ⟨hidentifier, hversion, htopic, typeValue, htype, t, hlabel⟩ :=
      baseValues_iff.mp hvalid
    refine ⟨hrows, {
      known := fun key value hvalue => ?_
      identifier := hidentifier
      version := hversion
      topic := htopic
      sopType := ⟨typeValue, htype, t, hlabel, ?_,
        (metadataDirectory_eq_nil_iff htype hlabel).mp hdirectory⟩ }⟩
    · by_contra hunknown
      have hnil := hvalues key value hvalue (isChecked_of_unknown hunknown _ _)
      rw [metadataValue_of_unknown c hunknown] at hnil
      cases hnil
    · exact (fitNodeValues_iff (sopType?_of_label htype hlabel)).mpr
        ⟨fun key _ value hvalue hchecked => hvalues key value hvalue hchecked, hneeds, hlevel⟩
  · rintro ⟨hrows, hvalid⟩
    obtain ⟨typeValue, htype, t, hlabel, hfit, hin⟩ := hvalid.sopType
    obtain ⟨hbase, hbaseValues⟩ := validKeys_iff.mp (baseValues_iff.mpr
      ⟨hvalid.identifier, hvalid.version, hvalid.topic, typeValue, htype, t, hlabel⟩)
    obtain ⟨hnodeValues, hneeds, hlevel⟩ :=
      (fitNodeValues_iff (c := c) (sopType?_of_label htype hlabel)).mp hfit
    refine ⟨⟨⟨⟨⟨hrows, fun key value hvalue hchecked => ?_⟩, hbase⟩, hneeds⟩, hlevel⟩,
      (metadataDirectory_eq_nil_iff htype hlabel).mpr hin⟩
    rcases List.mem_append.mp (hvalid.known key value hvalue) with hkey | hkey
    · exact hbaseValues key hkey value hvalue
    · exact hnodeValues key hkey value hvalue hchecked

/-! ### Warnings -/

/-- The keys that nothing is known about, with their values. -/
def unknownEntries (record : Record) : List (String × String) :=
  record.entries.filter fun entry => entry.1 ∉ knownKeys

/-- A step that passes some elements on after all those that it needs were let through. -/
theorem flatMap_filter_ite {α β : Type} {through needed : α → Bool}
    (h : ∀ a, needed a = true → through a = true) (f : α → β) (xs : List α) :
    (xs.filter through).flatMap (fun a => if needed a then [f a] else []) =
      (xs.filter needed).map f := by
  induction xs with
  | nil => rfl
  | cons a xs ih =>
    cases hneeded : needed a with
    | true => simp [h a hneeded, hneeded, ih]
    | false => cases hthrough : through a <;> simp [hthrough, hneeded, ih]

theorem warnings_metadataValues (c : Conventions) (record : Record) :
    (metadataValues c record).filter (! Problem.isError ·) =
      (unknownEntries record).map fun entry => .unexpectedMetadata entry.1 entry.2 := by
  have hunknown : ∀ entry : String × String, decide (entry.1 ∉ knownKeys) = true →
      isChecked record entry.1 entry.2 = true := fun entry hentry =>
    isChecked_of_unknown (of_decide_eq_true hentry) record entry.2
  unfold metadataValues unknownEntries
  rw [List.filter_flatMap, ← flatMap_filter_ite hunknown]
  congr 1
  funext entry
  exact warnings_metadataValue c entry.1 entry.2

theorem isError_of_mem_metadataDirectory {p : Problem} (hp : p ∈ metadataDirectory path record) :
    p.isError = true := by
  unfold metadataDirectory at hp
  split at hp
  · cases hp
  split at hp
  · cases hp
  split at hp
  · cases hp
  · rw [List.mem_singleton.mp hp]
    rfl

/-- Only the values of unknown keys lead to warnings. -/
theorem warnings_metadataProblems (c : Conventions) (path : Path) (table : MetadataTable) :
    (metadataProblems c path table).filter (! Problem.isError ·) =
      (unknownEntries table.record).map fun entry => .unexpectedMetadata entry.1 entry.2 := by
  have herrors : ∀ {ps : List Problem}, (∀ p ∈ ps, p.isError = true) →
      ps.filter (! Problem.isError ·) = [] := fun h =>
    List.filter_eq_nil_iff.mpr fun p hp => by simp [h p hp]
  have hrows : ∀ p ∈ table.malformedRows.map Problem.metadataRow, p.isError = true :=
    List.forall_mem_map.mpr fun _ _ => rfl
  have hmissing : ∀ p ∈ (missingKeys table.record baseKeys).map Problem.missingMetadata,
      p.isError = true := List.forall_mem_map.mpr fun _ _ => rfl
  have hnode : ∀ p ∈ (if needsNodeKeys table.record then
      (missingKeys table.record nodeKeys).map Problem.missingNodeMetadata else []),
      p.isError = true := by
    split
    · exact List.forall_mem_map.mpr fun _ _ => rfl
    · exact List.forall_mem_nil _
  have hlevel : ∀ p ∈ (if table.record.sopType? = some .europeanLevel ∧
      hasNodeValues table.record then [Problem.nodeValuesAtEuropeanLevel] else []),
      p.isError = true := by
    split
    · exact List.forall_mem_singleton.mpr rfl
    · exact List.forall_mem_nil _
  simp only [metadataProblems, List.filter_append, warnings_metadataValues,
    herrors hrows, herrors hmissing, herrors hnode, herrors hlevel,
    herrors fun _ => isError_of_mem_metadataDirectory, List.nil_append, List.append_nil]

/-- The rule has nothing to say of a table if all rows have two cells and give valid metadata. -/
theorem metadataProblems_ofTable_eq_nil_iff (c : Conventions) (path : Path) (table : Tree.Node) :
    metadataProblems c path (MetadataTable.ofTable table) = [] ↔
      (∀ row ∈ table.bodyRows, row.length = 2) ∧
        ValidMetadata c path (MetadataTable.lastGiven? table.bodyRows) := by
  have hget : (MetadataTable.ofTable table).record.get? =
      MetadataTable.lastGiven? table.bodyRows := funext (MetadataTable.get?_ofRows _)
  have hrows : (MetadataTable.ofTable table).malformedRows = [] ↔
      ∀ row ∈ table.bodyRows, row.length = 2 := by
    unfold MetadataTable.ofTable
    rw [MetadataTable.malformedRows_ofRows, List.filter_eq_nil_iff]
    simp only [decide_eq_true_eq, not_not]
  have hdistinct : (MetadataTable.ofTable table).record.Distinct :=
    MetadataTable.distinct_ofRows _
  rw [metadataProblems_eq_nil_iff hdistinct, hget, hrows]

end Records

/-- **The rule on the metadata table accepts exactly the documents with valid metadata**, in a
table of rows with two cells, and warns of each key that nothing is known about, once and of
nothing else. -/
theorem metadataTable_verdict (ctx : Context) :
    (∀ strict, (Rule.metadataTable.check ctx strict .empty).isEmpty = true ↔
      ∃ table, Tree.tableWith? Tree.metadataHeader ctx.root = some table ∧
        (∀ row ∈ table.bodyRows, row.length = 2) ∧
        ValidMetadata ctx.conventions ctx.path (MetadataTable.lastGiven? table.bodyRows)) ∧
    ∃ unknown : List (String × String), (unknown.map (·.1)).Nodup ∧
      (∀ key value, (key, value) ∈ unknown ↔ key ∉ knownKeys ∧
        ∃ table, Tree.tableWith? Tree.metadataHeader ctx.root = some table ∧
          MetadataTable.lastGiven? table.bodyRows key = some value) ∧
      (Rule.metadataTable.check ctx false .empty).warnings = unknown.map fun (key, value) =>
        s!"Unexpected row in the metadata table: '{key} | {value}'." := by
  have hwarnings : (Rule.metadataTable.check ctx false .empty).warnings =
      ((metadataTable ctx).filter (! Problem.isError ·)).map Problem.message := by
    rw [Rule.check, Findings.addProblems_lenient]
    rfl
  simp only [Rule.isEmpty_check, hwarnings]
  show (∀ strict : Bool, metadataTable ctx = [] ↔ _) ∧ _
  unfold metadataTable
  cases htable : Tree.tableWith? Tree.metadataHeader ctx.root with
  | none =>
    refine ⟨fun strict => ?_, [], List.nodup_nil, fun key value => ?_, rfl⟩
    · simp
    · simp
  | some table =>
    simp only [Option.some.injEq, exists_eq_left']
    have hdistinct := MetadataTable.distinct_ofRows table.bodyRows
    refine ⟨fun _ => metadataProblems_ofTable_eq_nil_iff _ _ _,
      unknownEntries (MetadataTable.ofTable table).record,
      hdistinct.sublist (List.filter_sublist.map _), fun key value => ?_, ?_⟩
    · unfold unknownEntries
      rw [List.mem_filter, MetadataTable.ofTable, Record.mem_entries_iff hdistinct,
        MetadataTable.get?_ofRows, decide_eq_true_eq, and_comm]
    · rw [warnings_metadataProblems, List.map_map]
      rfl

/-- The metadata of a document for a node: the type is in mixed case, a topic is taken back. -/
def nodeDocument : Context := { ownedDocument with
  path := ⟨"sops/node-specific/GDI-SOP0002_transfer.md"⟩
  root := ⟨.document, ⟨0, 0⟩, none, .none, [
    textTable [Tree.metadataHeader, ["Topic", "Cooking"], ["Template SOP number", "GDI-SOP0002"],
      ["Template SOP version", "v1.0"], ["TOPIC", "Helpdesk & operations"],
      ["Template SOP type", "NODE-specific sop"], ["GDI Node", "SWE"],
      ["Instance version", "v2"]]]⟩ }

/-- Both verdicts are given: nothing is said of one document, and one key of the other. -/
theorem metadataTable_verdict_documents :
    (∃ table, Tree.tableWith? Tree.metadataHeader nodeDocument.root = some table ∧
      ValidMetadata nodeDocument.conventions nodeDocument.path
        (MetadataTable.lastGiven? table.bodyRows)) ∧
    (Rule.metadataTable.check nodeDocument true .empty).isEmpty = true ∧
    ∃ unknown : List (String × String), ("owner", "the helpdesk") ∈ unknown ∧
      (Rule.metadataTable.check ownedDocument false .empty).warnings =
        unknown.map fun (key, value) =>
          s!"Unexpected row in the metadata table: '{key} | {value}'." := by
  have hempty : (Rule.metadataTable.check nodeDocument true .empty).isEmpty = true := by
    decide +kernel
  obtain ⟨table, htable, -, hvalid⟩ := ((metadataTable_verdict nodeDocument).1 true).mp hempty
  obtain ⟨unknown, -, hunknown, hwarnings⟩ := (metadataTable_verdict ownedDocument).2
  refine ⟨⟨table, htable, hvalid⟩, hempty, unknown, (hunknown _ _).mpr ?_, hwarnings⟩
  have hgiven : (Tree.tableWith? Tree.metadataHeader ownedDocument.root).map (fun table =>
      MetadataTable.lastGiven? table.bodyRows "owner") = some (some "the helpdesk") := by
    decide +kernel
  obtain ⟨table, htable, hvalue⟩ := Option.map_eq_some_iff.mp hgiven
  exact ⟨by decide, table, htable, hvalue⟩

end SopDocs.Lint
