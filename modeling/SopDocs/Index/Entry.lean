import SopDocs.History
import SopDocs.Metadata
import SopDocs.Procedure
/-!
Entries of the index: one row per document, made from its metadata table, its procedure and its
history. A table that is missing or malformed is a failure and not an empty cell.
-/

namespace SopDocs.Index

structure Entry where
  name : String
  identifier : String
  templateVersion : String
  topic : String
  sopType : String
  node : String
  instanceVersion : String
  steps : Nat
  lastModified : String
deriving DecidableEq, Inhabited

/-- The columns of the index. -/
def columns : List String := [
  "Name", "Identifier", "Template version", "Topic", "Type", "GDI Node", "Instance version",
  "Nº steps", "Last modified"]

/-- The column by which the rows of two indexes are matched. -/
def identifierColumn : String := "Identifier"

/-- The column that holds a number. -/
def stepsColumn : String := "Nº steps"

/-- The cells of an entry in the order of the columns. -/
def Entry.cells (e : Entry) : List String := [
  e.name, e.identifier, e.templateVersion, e.topic, e.sopType, e.node, e.instanceVersion,
  toString e.steps, e.lastModified]

/-- A markdown link to a document, labelled with its file stem. -/
def documentLink (path : Path) : String :=
  let stem := path.fileStem?.getD ""
  s!"[{stem}]({path.text})"

/-- The metadata of a document; a row that is not a pair is a failure. -/
def metadataOf (label : String) (root : Tree.Node) : Except Failure Metadata.Record :=
  match Tree.tableWith? Tree.metadataHeader root with
  | none => .error (.noMetadataTable label)
  | some node =>
    let table := MetadataTable.ofTable node
    match table.malformedRows with
    | row :: _ => .error (.malformedMetadataRow label row)
    | [] => .ok table.record

/-- The entry of a document. -/
def entryFor (path : Path) (root : Tree.Node) : Except Failure Entry := do
  let record ← metadataOf path.text root
  let lastModified ← History.lastModified root path.text
  return {
    name := documentLink path
    identifier := record.value Metadata.identifierKey
    templateVersion := record.value Metadata.versionKey
    topic := record.value Metadata.topicKey
    sopType := record.value Metadata.typeKey
    node := record.value Metadata.nodeKey
    instanceVersion := record.value Metadata.instanceKey
    steps := Procedure.countSteps root
    lastModified }

/-- Entries in ascending order of their identifiers; equal identifiers keep their order. -/
def sortEntries (entries : List Entry) : List Entry :=
  entries.mergeSort fun a b => a.identifier ≤ b.identifier

end SopDocs.Index
