import SopDocs.Text.Blank
import SopDocs.Text.Case
import SopDocs.Tree.Node
/-!
Tables of a document tree. A table's role is known by its header row alone.
-/

namespace SopDocs.Tree

/-- Cell texts of a row. -/
abbrev Row := List String

/-- Header of the metadata table. -/
def metadataHeader : Row := ["Metadata", "Value"]

/-- Header of the document history table. -/
def historyHeader : Row :=
  ["Template Version", "Instance version", "Author(s)", "Description of changes", "Date"]

/-- Header of the roles table. -/
def rolesHeader : Row := ["Role", "Full name", "GDI/node role", "Organisation"]

/-- Header of the glossary table. -/
def glossaryHeader : Row := ["Term", "Definition"]

namespace Node

def cells (row : Node) : List Node := row.children.filter (·.kind == .tableCell)

/-- Trimmed cell texts of a table, header row first. -/
def tableRows (table : Node) : List Row :=
  (table.children.filter (·.kind == .tableRow)).map fun row =>
    row.cells.map fun cell => Text.trimmed cell.plainText

/-- The rows below the header. -/
def bodyRows (table : Node) : List Row := table.tableRows.drop 1

end Node

/-- Equality of two header rows up to case. -/
def headerMatches (header signature : Row) : Bool :=
  header.map Text.lowered == signature.map Text.lowered

def hasHeader (signature : Row) (table : Node) : Bool :=
  match table.tableRows with
  | [] => false
  | header :: _ => headerMatches header signature

/-- Tables below `root` with the given header, in document order. -/
def tablesWith (signature : Row) (root : Node) : List Node :=
  (root.findAll .table).filter (hasHeader signature)

def tableWith? (signature : Row) (root : Node) : Option Node := (tablesWith signature root).head?

/-- Cells of a row as one line of text. -/
def rowText (row : Row) : String := " | ".intercalate row

end SopDocs.Tree
