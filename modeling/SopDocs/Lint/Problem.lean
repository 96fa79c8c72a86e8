import SopDocs.Path
import SopDocs.Tree.Table
import SopDocs.Version
/-!
What a rule can find wrong with a document. A problem keeps the texts it is about; severity and
message follow from it.
-/

namespace SopDocs.Lint

inductive Severity where
  | error
  | warning
deriving DecidableEq, Inhabited

inductive Problem where
  | titleStart (titlePrefix title : String)
  | noTitle (titlePrefix : String)
  | titleMismatch (title expected : String)
  | noTitleToCompare (expected : String)
  | missingSection (label : String)
  | emptySection (label : String)
  | noMetadataTable
  | metadataRow (row : Tree.Row)
  | metadataPattern (key value pattern : String)
  | metadataFormat (key value : String)
  | metadataChoice (key value : String) (choices : List String)
  | unexpectedMetadata (key value : String)
  | missingMetadata (key : String)
  | missingNodeMetadata (key : String)
  | nodeValuesAtEuropeanLevel
  | wrongDirectory (actual typeValue expected : String)
  | noHistoryTable
  | historyRow (row : Tree.Row)
  | historyTemplate (cell : String) (row : Tree.Row)
  | historyInstance (cell : String) (row : Tree.Row)
  | templateOrder (version above : Version) (row : Tree.Row)
  | instanceOrder (version above : Version) (row : Tree.Row)
  | noAuthor (row : Tree.Row)
  | noDescription (row : Tree.Row)
  | historyDate (cell : String) (row : Tree.Row)
  | noRolesTable
  | rolesRow (row : Tree.Row)
  | missingRole (role : String)
  | stepMisnumbered (heading : String) (found expected : Nat)
  | stepUnnumbered (heading : String) (expected : Nat)
  | noStepTable (step : String)
  | stepTableStart (step cell : String)
  | emptyStepTable (step : String)
  | termNotInCharter (term : String)
  | undefinedAcronym (acronym : String)
  | missingTarget (url : String) (resolved : Path)
  | linkNotFound (url : String)
  | linkUnresolvable (url cause : String)
  | fileName (name : String)
  | fileTitleCase (name : String)
  | duplicateIdentifier (identifier : String) (uses : Nat)
  | imageDirectory (url imagesDir : String)

namespace Problem

/-- Everything is an error but rows and acronyms that nothing is known about. -/
def severity : Problem → Severity
  | unexpectedMetadata _ _ => .warning
  | undefinedAcronym _ => .warning
  | _ => .error

def message : Problem → String
  | titleStart titlePrefix title =>
    s!"Title must start with '# {titlePrefix}' followed by the SOP title. Current title: '{title}'."
  | noTitle titlePrefix =>
    s!"Title must start with '# {titlePrefix}' followed by the SOP title. " ++
      "No level-1 heading was found."
  | titleMismatch title expected =>
    s!"Title '{title}' does not match the file name; expected '{expected}'."
  | noTitleToCompare expected =>
    "Cannot compare the title with the file name: no level-1 heading was found " ++
      s!"(expected '# {expected}')."
  | missingSection label => s!"Required section '{label}' is missing."
  | emptySection label => s!"The section '{label}' is empty."
  | noMetadataTable => "Metadata table is missing or incorrectly formatted."
  | metadataRow row =>
    let text := Tree.rowText row
    s!"Metadata table row is incorrectly formatted (2 columns are expected): '{text}'."
  | metadataPattern key value pattern =>
    s!"At the metadata table, value column for '{key}' is incorrectly formatted: '{value}'. " ++
      s!"It should follow the regex '{pattern}'."
  | metadataFormat key value =>
    s!"At the metadata table, value column for '{key}' is incorrectly formatted: '{value}'."
  | metadataChoice key value choices =>
    let listed := ", ".intercalate choices
    s!"At the metadata table, value column for '{key}' is invalid: '{value}'. " ++
      s!"Its value should be one of: {listed}."
  | unexpectedMetadata key value => s!"Unexpected row in the metadata table: '{key} | {value}'."
  | missingMetadata key => s!"Metadata row '{key}' is missing from the metadata table."
  | missingNodeMetadata key =>
    s!"Metadata row '{key}' is missing from the metadata table (required for node-specific SOPs)."
  | nodeValuesAtEuropeanLevel =>
    "European-level SOPs should not have 'GDI Node' or 'Instance version' values " ++
      "in the metadata table."
  | wrongDirectory actual typeValue expected =>
    s!"The document is stored in directory '{actual}', " ++
      s!"but its type '{typeValue}' requires directory '{expected}'."
  | noHistoryTable => "Document History table is missing or incorrectly formatted."
  | historyRow row =>
    "Document History table row is incorrectly formatted (expected 5 columns). " ++ inRow row
  | historyTemplate cell row =>
    s!"At the Document History table, Template Version ('{cell}') is incorrectly formatted. " ++
      inRow row
  | historyInstance cell row =>
    s!"At the Document History table, Instance Version ('{cell}') is incorrectly formatted. " ++
      inRow row
  | templateOrder version above row =>
    s!"At the Document History table, Template version ('{version.display}') " ++
      order above ++ inRow row
  | instanceOrder version above row =>
    s!"At the Document History table, Instance Version ('{version.display}') " ++
      order above ++ inRow row
  | noAuthor row => "Author name is missing. " ++ inRow row
  | noDescription row => "Description of changes is missing. " ++ inRow row
  | historyDate cell row =>
    s!"Date is incorrectly formatted (expected format is YYYY.MM.DD): '{cell}'. " ++ inRow row
  | noRolesTable => "Roles and Responsibilities table is missing or incorrectly formatted."
  | rolesRow row =>
    let text := Tree.rowText row
    "Roles and Responsibilities table row is incorrectly formatted (expected 4 columns): " ++
      s!"'{text}'."
  | missingRole role =>
    s!"Role '{role}' is missing a non-empty Full Name row " ++
      "in the Roles and Responsibilities table."
  | stepMisnumbered heading found expected =>
    s!"Procedure step '{heading}' is numbered 8.{found} but 8.{expected} was expected."
  | stepUnnumbered heading expected =>
    s!"Procedure step header '{heading}' does not start with a step number " ++
      s!"(expected '8.{expected}')."
  | noStepTable step => s!"Procedure step 8.{step} is not followed by a step table."
  | stepTableStart step cell =>
    s!"The table of procedure step 8.{step} starts with '{cell}' instead of '{step}'."
  | emptyStepTable step => s!"The table of procedure step 8.{step} has no body rows."
  | termNotInCharter term => s!"Glossary term '{term}' is not defined in the charter glossary."
  | undefinedAcronym acronym => s!"Acronym '{acronym}' is not defined in the glossary."
  | missingTarget url resolved =>
    s!"Reference '{url}' points to '{resolved.text}', which does not exist."
  | linkNotFound url => s!"Reference '{url}' could not be found (HTTP 404)."
  | linkUnresolvable url cause => s!"Reference '{url}' could not be resolved: {cause}."
  | fileName name =>
    s!"File name '{name}' does not follow the '<identifier>_<title>.md' convention " ++
      "(e.g. 'GDI-SOP0001_my-title.md')."
  | fileTitleCase name => s!"The title part of the file name '{name}' must be lowercase."
  | duplicateIdentifier identifier uses =>
    s!"Identifier '{identifier}' is used by {uses} input files; identifiers must be unique."
  | imageDirectory url imagesDir =>
    s!"Image '{url}' must be stored in the '{imagesDir}' directory."
where
  inRow (row : Tree.Row) : String := "Row: '" ++ Tree.rowText row ++ "'."
  order (above : Version) : String :=
    s!"should be lower than the version right above ('{above.display}'). " ++
      "Rows are ordered from recent (top) to older (bottom). "

end Problem

end SopDocs.Lint
