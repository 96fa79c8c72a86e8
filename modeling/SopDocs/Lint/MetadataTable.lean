import SopDocs.Metadata
import SopDocs.Version
import SopDocs.Lint.Context
/-!
The rule about the metadata table: its rows, the value of each known key, the keys that must be
there, and the directory that the type asks for. Node values are for node-specific documents only.
-/

namespace SopDocs.Lint

open Metadata

/-- The pattern of node codes, as it is shown in messages. -/
def nodeCodePattern : String := "^[A-Z]\x7b3\x7d$"

/-- Three capital letters of ASCII. -/
def isNodeCode (value : String) : Bool :=
  value.toList.length == 3 && value.toList.all Char.isUpper

/-- Whether a value is one of the choices, up to case. -/
def isChoice (choices : List String) (value : String) : Bool :=
  choices.any fun choice => Text.lowered choice == Text.lowered value

/-- What is wrong with the value of a key. -/
def metadataValue (c : Conventions) (key value : String) : List Problem :=
  if key = identifierKey then
    if c.startsWithIdentifier value then []
    else [.metadataPattern key value c.identifierPattern]
  else if key = nodeKey then
    if isNodeCode value then [] else [.metadataPattern key value nodeCodePattern]
  else if key = versionKey ∨ key = instanceKey then
    if Version.isValid value then [] else [.metadataFormat key value]
  else if key = topicKey then
    if isChoice topics value then [] else [.metadataChoice key value topics]
  else if key = typeKey then
    if isChoice typeLabels value then [] else [.metadataChoice key value typeLabels]
  else [.unexpectedMetadata key value]

def hasNodeValues (record : Record) : Bool := nodeKeys.any fun key => record.value key != ""

/-- A node-specific document with one node value needs them all. -/
def needsNodeKeys (record : Record) : Bool :=
  record.sopType? == some .nodeSpecific && hasNodeValues record

/-- Whether the value of a key is looked at. -/
def isChecked (record : Record) (key value : String) : Bool :=
  if nodeKeys.contains key then
    record.sopType? != some .europeanLevel && (value != "" || needsNodeKeys record)
  else true

def metadataValues (c : Conventions) (record : Record) : List Problem :=
  (record.entries.filter fun (key, value) => isChecked record key value).flatMap
    fun (key, value) => metadataValue c key value

def missingKeys (record : Record) (keys : List String) : List String :=
  keys.filter fun key => !record.contains key

/-- The name of the directory that a document is in, as far as its path tells. -/
def directoryName (path : Path) : String := (path.parent?.bind Path.fileName?).getD ""

def metadataDirectory (path : Path) (record : Record) : List Problem :=
  match record.get? typeKey with
  | none => []
  | some typeValue =>
    match expectedDirectory? typeValue with
    | none => []
    | some expected =>
      if directoryName path = expected then []
      else [.wrongDirectory (directoryName path) typeValue expected]

/-- What is wrong with a metadata table that was found. -/
def metadataProblems (c : Conventions) (path : Path) (table : MetadataTable) : List Problem :=
  let record := table.record
  table.malformedRows.map .metadataRow ++
    metadataValues c record ++
    (missingKeys record baseKeys).map .missingMetadata ++
    (if needsNodeKeys record then (missingKeys record nodeKeys).map .missingNodeMetadata else []) ++
    (if record.sopType? = some .europeanLevel ∧ hasNodeValues record
      then [.nodeValuesAtEuropeanLevel] else []) ++
    metadataDirectory path record

def metadataTable (ctx : Context) : List Problem :=
  match Tree.tableWith? Tree.metadataHeader ctx.root with
  | none => [.noMetadataTable]
  | some table => metadataProblems ctx.conventions ctx.path (MetadataTable.ofTable table)

end SopDocs.Lint
