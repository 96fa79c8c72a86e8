import SopDocs.Calendar
import SopDocs.Failure
import SopDocs.Tree.Table
/-!
The document history: a table of versions, newest first. Its first row tells when the document was
last edited.
-/

namespace SopDocs

namespace History

/-- A cell without surrounding backquotes. -/
def bareCell (cell : String) : String :=
  String.ofList (Text.trim (Text.stripMark '\x60' cell.toList))

/-- Body rows of a history table, each cell without surrounding backquotes. -/
def rows (table : Tree.Node) : List Tree.Row := table.bodyRows.map (·.map bareCell)

/-- Characters of inline formatting. -/
def formattingMarks : List Char := ['\x60', '*', '_']

def stripFormatting (cell : String) : String :=
  String.ofList (cell.toList.filter (! formattingMarks.contains ·))

/-- The date cell of the first row of the first history table. -/
def newestDate (root : Tree.Node) (label : String) : Except Failure String :=
  match Tree.tableWith? Tree.historyHeader root with
  | none => .error (.noHistoryTable label)
  | some table =>
    match rows table with
    | [] => .error (.emptyHistory label)
    | [_, _, _, _, date] :: _ => .ok date
    | row :: _ => .error (.shortHistoryRow label row.length)

/-- The newest date as it is written, without formatting. -/
def lastModified (root : Tree.Node) (label : String) : Except Failure String :=
  (newestDate root label).map stripFormatting

/-- The newest date as a day of the calendar. -/
def mostRecentDate (root : Tree.Node) (label : String) : Except Failure Date :=
  match newestDate root label with
  | .error f => .error f
  | .ok date =>
    match Date.parse? date with
    | some d => .ok d
    | none => .error (.invalidHistoryDate date label)

end History

end SopDocs
