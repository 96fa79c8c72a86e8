import SopDocs.Markdown.Block
import SopDocs.Text.Search
/-!
Rows of tables. A bar that no backslash escapes divides cells; a blank piece before the first bar or
after the last one is no cell of its own.
-/

namespace SopDocs.Markdown

/-- The pieces of a row; each but the first starts with its bar. -/
def barPieces (escaped : Bool) : List Glyph → List (List Glyph)
  | [] => [[]]
  | g :: r =>
    let skips := escaped && (g.char == '\\' || g.char == '|')
    match barPieces (!skips && g.char == '\\') r with
    | p :: ps => if g.char == '|' && !skips then [] :: (g :: p) :: ps else (g :: p) :: ps
    | [] => [[g]]

def isBar (g : Glyph) : Bool := g.char == '|'

/-- A piece without its bar and the spaces around. -/
def cellText (piece : List Glyph) : List Glyph :=
  let inner := match piece with
    | g :: r => if isBar g then skipSpaces r else skipSpaces piece
    | [] => []
  (inner.reverse.dropWhile Glyph.isSpace).reverse

/-- A cell: all of its part of the row, and its text. -/
structure CellPart where
  whole : List Glyph
  text : List Glyph
deriving DecidableEq, Inhabited

/-- A blank piece at the start goes with the cell after it. -/
def joinStart : List CellPart → List CellPart
  | a :: b :: r => if isBlankText a.whole then ⟨a.whole ++ b.whole, b.text⟩ :: r else a :: b :: r
  | r => r

/-- A blank piece at the end goes with the cell before it. -/
def joinEnd : List CellPart → List CellPart
  | [a, b] => if b.text.isEmpty then [⟨a.whole ++ b.whole, a.text⟩] else [a, b]
  | a :: r => a :: joinEnd r
  | [] => []

/-- The cells of a row. -/
def rowCells (gs : List Glyph) : List CellPart :=
  joinEnd (joinStart ((barPieces false gs).map fun p => ⟨p, cellText p⟩))

/-- A row of a table. -/
def rowBlock (line : Line) : Block :=
  let cell (part : CellPart) : Block :=
    ⟨.cell, ⟨startOf line.stop part.whole, stopOf line.stop part.whole⟩, part.text, []⟩
  .of .row (startOf line.stop line.glyphs) line.stop ((rowCells line.glyphs).map cell)

/-- Whether the text of a cell in a delimiter row is dashes between two optional colons. -/
def isDelimiter (cs : List Char) : Bool :=
  let dashes (cs : List Char) := !cs.isEmpty && cs.all (· == '-')
  let withoutStart := match cs with
    | ':' :: r => r
    | r => r
  dashes withoutStart || (withoutStart.getLast? == some ':' && dashes withoutStart.dropLast)

/-- The number of columns that a delimiter row has. It holds a bar or a colon. -/
def delimiterCount? (gs : List Glyph) : Option Nat :=
  (unindented? gs).bind fun r =>
    let cells := rowCells r
    if r.any (fun g => g.char == '|' || g.char == ':') &&
        cells.all (fun c => isDelimiter (c.text.map (·.char))) then
      some cells.length
    else none

/-- Whether a line may be the head of a table with a number of columns: it is more than a bar. -/
def isHeadOf (count : Nat) (gs : List Glyph) : Bool :=
  match unindented? gs with
  | none => false
  | some r => (r.filter (! ·.isSpace)).map (·.char) != ['|'] && (rowCells r).length == count

end SopDocs.Markdown
