import SopDocs.Index.Entry
import SopDocs.Json.Writer
/-!
Written forms of the index: a pipe table with padded columns, comma-separated values, and JSON.
-/

namespace SopDocs.Index

inductive Format where
  | markdown
  | csv
  | json
deriving DecidableEq, Inhabited

/-- Reads the name of a format; case does not matter. -/
def Format.parse? (name : String) : Option Format :=
  match Text.lowered name with
  | "markdown" => some .markdown
  | "md" => some .markdown
  | "csv" => some .csv
  | "json" => some .json
  | _ => none

def unknownFormatMessage (name : String) : String := s!"Unknown index format: {name}"

def blanks (n : Nat) : String := String.ofList (List.replicate n ' ')

def dashes (n : Nat) : String := String.ofList (List.replicate n '-')

/-- Width of no column is less than this. -/
def minWidth : Nat := 3

/-- A column is as wide as its widest cell, the header included. -/
def width (cells : List String) : Nat := (cells.map String.length).foldl max minWidth

/-- The cells below each other, column by column. -/
def columnCells (rows : List (List String)) : List (List String) :=
  columns.zipIdx.map fun (header, i) => header :: rows.map fun row => row.getD i ""

def widths (rows : List (List String)) : List Nat := (columnCells rows).map width

/-- Numbers are set flush right. -/
def isNumeric (column : String) : Bool := column == stepsColumn

def pad (column : String) (width : Nat) (cell : String) : String :=
  let fill := blanks (width - cell.length)
  if isNumeric column then fill ++ cell else cell ++ fill

/-- A line of the table. -/
def rowLine (widths : List Nat) (cells : List String) : String :=
  let padded := (columns.zip (widths.zip cells)).map fun (column, width, cell) =>
    pad column width cell
  "| " ++ " | ".intercalate padded ++ " |"

/-- The line below the header, which tells how each column is set. -/
def ruleLine (widths : List Nat) : String :=
  let rules := (columns.zip widths).map fun (column, width) =>
    if isNumeric column then dashes (width + 1) ++ ":" else ":" ++ dashes (width + 1)
  "|" ++ "|".intercalate rules ++ "|"

def markdownLines (rows : List (List String)) : List String :=
  let w := widths rows
  [rowLine w columns, ruleLine w] ++ rows.map (rowLine w)

def markdownText (entries : List Entry) : String :=
  "\n".intercalate (markdownLines (entries.map Entry.cells)) ++ "\n"

/-- Characters that make quotes necessary. -/
def needsQuotes (c : Char) : Bool := c == ',' || c == '"' || c == '\n' || c == '\r'

/-- A field; inside quotes a quote is written twice. -/
def csvField (cell : String) : String :=
  if cell.toList.any needsQuotes then
    let doubled := cell.toList.flatMap fun c => if c = '"' then ['"', '"'] else [c]
    String.ofList ('"' :: (doubled ++ ['"']))
  else cell

def csvLine (cells : List String) : String := ",".intercalate (cells.map csvField) ++ "\n"

def csvText (entries : List Entry) : String :=
  String.join ((columns :: entries.map Entry.cells).map csvLine)

def Entry.toJson (e : Entry) : Json.Value :=
  .object [
    ("Name", .string e.name),
    ("Identifier", .string e.identifier),
    ("Template version", .string e.templateVersion),
    ("Topic", .string e.topic),
    ("Type", .string e.sopType),
    ("GDI Node", .string e.node),
    ("Instance version", .string e.instanceVersion),
    ("Nº steps", .int e.steps),
    ("Last modified", .string e.lastModified)]

def jsonText (entries : List Entry) : String := (Json.Value.array (entries.map Entry.toJson)).pretty

def render (format : Format) (entries : List Entry) : String :=
  match format with
  | .markdown => markdownText entries
  | .csv => csvText entries
  | .json => jsonText entries

end SopDocs.Index
