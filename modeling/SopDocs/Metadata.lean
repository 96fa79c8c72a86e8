import SopDocs.Tree.Table
/-!
The metadata of a document: a table of keys and values. Keys are in lower case; a key that is
repeated further down keeps its place and takes the later value.
-/

namespace SopDocs

namespace Metadata

def identifierKey : String := "template sop number"
def versionKey : String := "template sop version"
def topicKey : String := "topic"
def typeKey : String := "template sop type"
def nodeKey : String := "gdi node"
def instanceKey : String := "instance version"

/-- Keys of every metadata table. -/
def baseKeys : List String := [identifierKey, versionKey, topicKey, typeKey]

/-- Keys of node-specific documents. -/
def nodeKeys : List String := [nodeKey, instanceKey]

def topics : List String := [
  "Data protection & security",
  "Data & metadata management",
  "Technical infrastructure & software development",
  "Helpdesk & operations"]

/-- The level at which a document applies. -/
inductive SopType where
  | nodeSpecific
  | europeanLevel
deriving DecidableEq, Inhabited

def SopType.label : SopType → String
  | nodeSpecific => "Node-specific SOP"
  | europeanLevel => "European-level SOP"

def typeLabels : List String := [SopType.nodeSpecific.label, SopType.europeanLevel.label]

/-- Reads a type; case and surrounding white space do not matter. -/
def SopType.parse? (value : String) : Option SopType :=
  let value := Text.lowered (Text.trimmed value)
  if value = Text.lowered SopType.nodeSpecific.label then some .nodeSpecific
  else if value = Text.lowered SopType.europeanLevel.label then some .europeanLevel
  else none

/-- The directory of documents of a type: the first word of the type, in lower case. -/
def expectedDirectory? (value : String) : Option String :=
  (Text.firstWord? value.toList).map fun w => Text.lowered (String.ofList w)

/-- Keys and values in the order in which the keys were first set. -/
structure Record where
  entries : List (String × String)
deriving DecidableEq, Inhabited

namespace Record

def empty : Record := ⟨[]⟩

/-- Sets the value of a key that is already in lower case. -/
def put (key value : String) : List (String × String) → List (String × String)
  | [] => [(key, value)]
  | (k, v) :: r => if k = key then (k, value) :: r else (k, v) :: put key value r

def insert (record : Record) (key value : String) : Record :=
  ⟨put (Text.lowered key) value record.entries⟩

def get? (record : Record) (key : String) : Option String :=
  (record.entries.find? (·.1 == key)).map (·.2)

/-- The value of a key, empty if the key is absent. -/
def value (record : Record) (key : String) : String := (record.get? key).getD ""

def contains (record : Record) (key : String) : Bool := (record.get? key).isSome

def sopType? (record : Record) : Option SopType := (record.get? typeKey).bind SopType.parse?

end Record

end Metadata

/-- A metadata table: the record of its rows of two cells, and the other rows. -/
structure MetadataTable where
  record : Metadata.Record
  malformedRows : List Tree.Row
deriving DecidableEq, Inhabited

namespace MetadataTable

def addRow (t : MetadataTable) (row : Tree.Row) : MetadataTable :=
  match row with
  | [key, value] => ⟨t.record.insert key value, t.malformedRows⟩
  | row => ⟨t.record, t.malformedRows ++ [row]⟩

def ofRows (rows : List Tree.Row) : MetadataTable := rows.foldl addRow ⟨.empty, []⟩

def ofTable (table : Tree.Node) : MetadataTable := ofRows table.bodyRows

end MetadataTable

end SopDocs
