import SopDocs.Path
import SopDocs.Text.Quoted
import SopDocs.Text.Search
import SopDocs.Tree.Table
/-!
Why an operation gives no result. Each cause knows its kind and its message.
-/

namespace SopDocs

/-- Why the system refuses an operation on a file. -/
inductive FileFault where
  | notFound
  | notDirectory
  | isDirectory
  | tooManyLinks
  | nameTooLong
  | nulInPath
  | notText
  | alreadyExists
deriving DecidableEq, Inhabited

def FileFault.message : FileFault → String
  | notFound => "No such file or directory (os error 2)"
  | notDirectory => "Not a directory (os error 20)"
  | isDirectory => "Is a directory (os error 21)"
  | tooManyLinks => "Too many levels of symbolic links (os error 40)"
  | nameTooLong => "File name too long (os error 36)"
  | nulInPath => "file name contained an unexpected NUL byte"
  | notText => "stream did not contain valid UTF-8"
  | alreadyExists => "File exists (os error 17)"

/-- Why a glob pattern is refused. -/
inductive GlobFault where
  | unclosedClass
  | unclosedGroup
  | unopenedGroup
  | invalidRange (low high : Char)
  | danglingEscape
deriving DecidableEq, Inhabited

def GlobFault.message : GlobFault → String
  | unclosedClass => "unclosed character class; missing ']'"
  | unclosedGroup =>
    "unclosed alternate group; missing '\x7d' (maybe escape '\x7b' with '[\x7b]'?)"
  | unopenedGroup =>
    "unopened alternate group; missing '\x7b' (maybe escape '\x7d' with '[\x7d]'?)"
  | invalidRange low high => s!"invalid range; '{low}' > '{high}'"
  | danglingEscape => "dangling '\\'"

/-- Why a markdown text holds no index table. -/
inductive IndexTableFault where
  | noTable
  | noIdentifierColumn
deriving DecidableEq, Inhabited

def IndexTableFault.message : IndexTableFault → String
  | noTable => "no markdown table found"
  | noIdentifierColumn => "the table has no 'Identifier' column"

inductive Failure where
  | invalidJson (detail : String)
  | schemaViolation (detail pointer : String)
  | invalidSetting (detail : String)
  | unreadableConfig (path : Path) (fault : FileFault)
  | invalidGlob (pattern : String) (fault : GlobFault)
  | unreadable (path : Path) (fault : FileFault)
  | unresolvable (path : Path) (fault : FileFault)
  | unreadableIndex (path : Path) (fault : FileFault)
  | notCreated (path : Path) (fault : FileFault)
  | noRoot (marker : String) (path : Path)
  | unreadableCharter (path : Path) (fault : FileFault)
  | noHistoryTable (label : String)
  | emptyHistory (label : String)
  | shortHistoryRow (label : String) (cells : Nat)
  | invalidHistoryDate (date label : String)
  | noMetadataTable (label : String)
  | malformedMetadataRow (label : String) (row : Tree.Row)
  | noDocuments
  | duplicateIdentifiers (source : String) (identifiers : List String)
  | emptyIndexFile (path : Path)
  | unusableIndexFile (path : Path) (fault : IndexTableFault)
  | outputExists (path : Path)
deriving DecidableEq, Inhabited

namespace Failure

/-- The area of the program that a failure belongs to. -/
inductive Kind where
  | config
  | file
  | charter
  | document
  | index
deriving DecidableEq, Inhabited

def kind : Failure → Kind
  | invalidJson _ | schemaViolation _ _ | invalidSetting _ | unreadableConfig _ _
  | invalidGlob _ _ => .config
  | unreadable _ _ | unresolvable _ _ | unreadableIndex _ _ | notCreated _ _ => .file
  | noRoot _ _ | unreadableCharter _ _ => .charter
  | noHistoryTable _ | emptyHistory _ | shortHistoryRow _ _ | invalidHistoryDate _ _
  | noMetadataTable _ | malformedMetadataRow _ _ => .document
  | noDocuments | duplicateIdentifiers _ _ | emptyIndexFile _ | unusableIndexFile _ _
  | outputExists _ => .index

/-- How the messages of a kind start. -/
def Kind.heading : Kind → String
  | config => "Configuration error: "
  | file => "File error: "
  | charter => "Charter error: "
  | document => "Malformed document: "
  | index => "Index error: "

def detail : Failure → String
  | invalidJson detail => s!"Invalid JSON: {detail}"
  | schemaViolation detail pointer => s!"Config validation failed: {detail} at {pointer}"
  | invalidSetting detail => s!"Invalid config: {detail}"
  | unreadableConfig path fault => s!"Failed to read config {path.text}: {fault.message}"
  | invalidGlob pattern fault =>
    s!"Invalid glob pattern: error parsing glob '{pattern}': {fault.message}"
  | unreadable path fault => s!"Failed to read {path.text}: {fault.message}"
  | unresolvable path fault => s!"Cannot resolve '{path.text}': {fault.message}"
  | unreadableIndex path fault => s!"Failed to read index {path.text}: {fault.message}"
  | notCreated path fault => s!"Failed to create {path.text}: {fault.message}"
  | noRoot marker path =>
    s!"No repository root (a directory containing '{marker}') above '{path.text}'"
  | unreadableCharter path fault => s!"Cannot read charter '{path.text}': {fault.message}"
  | noHistoryTable label =>
    let header := Text.quotedAll "[" "]" Tree.historyHeader
    s!"No Document History table with headers {header} in '{label}'"
  | emptyHistory label => s!"Document History table of '{label}' has no rows"
  | shortHistoryRow label cells =>
    let expected := Tree.historyHeader.length
    s!"First Document History row of '{label}' has {cells} cells, expected {expected}"
  | invalidHistoryDate date label =>
    s!"Invalid date '{date}' in the Document History table of '{label}'"
  | noMetadataTable label =>
    let header := Text.quotedAll "[" "]" Tree.metadataHeader
    s!"Metadata table with headers {header} is missing from '{label}'"
  | malformedMetadataRow label row =>
    let text := Tree.rowText row
    s!"Metadata table row of '{label}' is incorrectly formatted (expected 2 columns): '{text}'"
  | noDocuments => "No SOP documents were given; the index would be empty"
  | duplicateIdentifiers source identifiers =>
    let count := identifiers.length
    let listed := Text.quotedAll "\x7b" "\x7d" identifiers
    s!"Duplicate identifiers ({count} unique IDs) found in the index table ({source}): {listed}"
  | emptyIndexFile path => s!"Index file '{path.text}' is empty"
  | unusableIndexFile path fault => s!"{path.text}: {fault.message}"
  | outputExists path => s!"Output file '{path.text}' already exists and will not be overwritten"

def message (f : Failure) : String := f.kind.heading ++ f.detail

end Failure

end SopDocs
