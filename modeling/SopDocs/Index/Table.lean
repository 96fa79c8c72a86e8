import SopDocs.Failure
import SopDocs.Index.Entry
import SopDocs.Sorted
import SopDocs.Text.Slice
/-!
Index tables: rows of cell texts under named columns. A table is made from entries or read from the
first table of a markdown document, whose cells keep their source with escaped pipes as plain ones.
-/

namespace SopDocs.Index

structure Table where
  columns : List String
  rows : List (List String)
deriving DecidableEq, Inhabited

/-- Escaped pipes as plain ones. -/
def plainPipes : List Char → List Char
  | '\\' :: '|' :: r => '|' :: plainPipes r
  | c :: r => c :: plainPipes r
  | [] => []

/-- The source of the content of a cell. -/
def cellSource (content : List Char) (cell : Tree.Node) : String :=
  match cell.children.head?, cell.children.getLast? with
  | some first, some last =>
    let source := (Text.byteSlice? content first.span.start last.span.stop).getD []
    String.ofList (plainPipes (Text.trim source))
  | _, _ => ""

namespace Table

def ofEntries (entries : List Entry) : Table := ⟨Index.columns, entries.map Entry.cells⟩

/-- The rows of a table node as source texts. -/
def sourceRows (content : List Char) (table : Tree.Node) : List (List String) :=
  (table.children.filter (·.kind == .tableRow)).map fun row => row.cells.map (cellSource content)

/-- The first table of a parsed document. -/
def ofTree (content : String) (root : Tree.Node) : Except IndexTableFault Table :=
  match root.findAll .table with
  | [] => .error .noTable
  | table :: _ =>
    match sourceRows content.toList table with
    | [] => .error .noTable
    | columns :: rows =>
      if columns.contains identifierColumn then .ok ⟨columns, rows⟩ else .error .noIdentifierColumn

/-- The cell of a row in a column; empty if there is none. -/
def cell (t : Table) (row : List String) (column : String) : String :=
  match t.columns.findIdx? (· == column) with
  | none => ""
  | some i => row.getD i ""

def identifier (t : Table) (row : List String) : String := t.cell row identifierColumn

/-- Rows by identifier; of rows with the same one the last counts. -/
def byIdentifier (t : Table) : List (String × List String) :=
  Sorted.ofList (t.rows.map fun row => (t.identifier row, row))

/-- What occurs again among the rest of a list, after `seen`. -/
def repeatedAfter (seen : List String) : List String → List String
  | [] => []
  | a :: r =>
    if seen.contains a then a :: repeatedAfter seen r else repeatedAfter (a :: seen) r

/-- Identifiers on more than one row, in ascending order. -/
def duplicates (t : Table) : List String :=
  Sorted.keys (Sorted.ofList ((repeatedAfter [] (t.rows.map t.identifier)).map fun a => (a, ())))

/-- Fails if an identifier is on more than one row. -/
def checkDuplicates (t : Table) (source : String) : Except Failure Unit :=
  match t.duplicates with
  | [] => .ok ()
  | identifiers => .error (.duplicateIdentifiers source identifiers)

end Table

end SopDocs.Index
