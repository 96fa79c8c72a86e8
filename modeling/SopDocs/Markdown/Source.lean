import SopDocs.Text.PunctuationTable
import SopDocs.Text.Blank
/-!
Markdown source as lines of positioned characters. A tab stands for itself and for as many filling
spaces as lead to the next multiple of four columns; a line ends with a line feed, a carriage return
or both.
-/

namespace SopDocs.Markdown

/-- What a glyph stands for: its own character, a part of the space of a tab, or the end of a
line. -/
inductive Form where
  | plain
  | filling
  | ending (text : List Char)
deriving DecidableEq, Inhabited

/-- A character of a line with the byte offsets where it starts and stops, and its neighbours in the
source. A filling space starts and, but for the last one, stops at its tab. The end of a line is a
line feed, whatever its text. -/
structure Glyph where
  char : Char
  start : Nat
  stop : Nat
  before : Char
  after : Char
  form : Form
deriving DecidableEq, Inhabited

/-- A line: its text, the offset where that stops, and how the line ends. -/
structure Line where
  glyphs : List Glyph
  stop : Nat
  ending : List Char
deriving DecidableEq, Inhabited

/-- The offset after the end of a line. -/
def Line.next (l : Line) : Nat := l.stop + l.ending.length

def tabWidth : Nat := 4

/-- Columns from `column`, counted from 0, to the next tab stop. -/
def tabColumns (column : Nat) : Nat := tabWidth - column % tabWidth

/-- The filling spaces of a tab. -/
def fillings (start : Nat) (before after : Char) : Nat → List Glyph
  | 0 => []
  | 1 => [⟨' ', start, start + 1, before, after, .filling⟩]
  | n + 2 => ⟨' ', start, start, before, after, .filling⟩ :: fillings start before after (n + 1)

/-- The glyphs of a tab that reaches over a number of columns. -/
def tabGlyphs (start columns : Nat) (before after : Char) : List Glyph :=
  ⟨'\t', start, if columns ≤ 1 then start + 1 else start, before, after, .plain⟩ ::
    fillings start before after (columns - 1)

/-- The character after a position; the end of the source counts as a line feed. -/
def nextChar : List Char → Char
  | [] => '\n'
  | c :: _ => c

/-- Lines of a text from an offset on; `done` is the current line in reverse. -/
def linesFrom (offset column : Nat) (before : Char) (done : List Glyph) : List Char → List Line
  | [] => [⟨done.reverse, offset, []⟩]
  | '\r' :: '\n' :: r => ⟨done.reverse, offset, ['\r', '\n']⟩ :: linesFrom (offset + 2) 0 '\n' [] r
  | c :: r =>
    if c = '\n' ∨ c = '\r' then
      ⟨done.reverse, offset, [c]⟩ :: linesFrom (offset + 1) 0 c [] r
    else if c = '\t' then
      let columns := tabColumns column
      linesFrom (offset + 1) (column + columns) c
        ((tabGlyphs offset columns before (nextChar r)).reverse ++ done) r
    else
      let size := c.utf8Size
      linesFrom (offset + size) (column + size) c
        (⟨c, offset, offset + size, before, nextChar r, .plain⟩ :: done) r

/-- The lines of a source. A byte order mark does not count, and no line follows the last line
end. -/
def sourceLines (source : List Char) : List Line :=
  let lines := match source with
    | '\ufeff' :: r => linesFrom 3 0 '\n' [] r
    | s => linesFrom 0 0 '\n' [] s
  lines.filter fun l => !(l.glyphs.isEmpty && l.ending.isEmpty)

/-- The line end of a line as one glyph; none at the end of the source. -/
def Line.endGlyph (l : Line) : Glyph := ⟨'\n', l.stop, l.next, ' ', ' ', .ending l.ending⟩

namespace Glyph

/-- Spaces and tabs. -/
def isSpace (g : Glyph) : Bool := g.char == ' ' || g.char == '\t'

def isEnd (g : Glyph) : Bool := g.char == '\n'

/-- White space of either kind. -/
def isBlank (g : Glyph) : Bool := g.isSpace || g.isEnd

def isFilling (g : Glyph) : Bool := g.form == .filling

/-- The text of a glyph; a filling space is a part of its tab. -/
def text (g : Glyph) : List Char :=
  match g.form with
  | .plain => [g.char]
  | .filling => []
  | .ending t => t

end Glyph

/-- The text that glyphs stand for: a filling space counts only if its tab is not among them. -/
def textOf (gs : List Glyph) : List Char :=
  (gs.takeWhile Glyph.isFilling).map (·.char) ++ gs.flatMap Glyph.text

def isBlankText (gs : List Glyph) : Bool := gs.all Glyph.isSpace

/-- The number of leading spaces. -/
def indent (gs : List Glyph) : Nat := (gs.takeWhile Glyph.isSpace).length

/-- Drops leading spaces, up to a number of them. -/
def dropSpaces (limit : Nat) (gs : List Glyph) : List Glyph := gs.drop (min limit (indent gs))

/-- Drops all leading spaces. -/
def skipSpaces (gs : List Glyph) : List Glyph := gs.dropWhile Glyph.isSpace

/-- The offset where glyphs start; `other` if there are none. -/
def startOf (other : Nat) (gs : List Glyph) : Nat :=
  match gs with
  | [] => other
  | g :: _ => g.start

/-- The offset where glyphs stop; `other` if there are none. -/
def stopOf (other : Nat) (gs : List Glyph) : Nat :=
  match gs.getLast? with
  | none => other
  | some g => g.stop

/-- Lines joined by their line ends. -/
def joinLines : List Line → List Glyph
  | [] => []
  | [l] => l.glyphs
  | l :: r => l.glyphs ++ l.endGlyph :: joinLines r

/-- The part of `whole` before its rest. -/
def taken (whole rest : List Glyph) : List Glyph := whole.take (whole.length - rest.length)

/-! ### Classes of characters -/

/-- Punctuation of ASCII. -/
def isAsciiPunctuation (c : Char) : Bool :=
  c.toNat < 128 && 0x20 < c.toNat && c.toNat != 0x7F && !c.isAlphanum

/-- What a character is next to a mark of emphasis. -/
inductive Flank where
  | blank
  | punctuation
  | other
deriving DecidableEq, Inhabited

def flankOf (c : Char) : Flank :=
  if Text.isBlank c then .blank
  else if c.toNat < 128 then (if isAsciiPunctuation c then .punctuation else .other)
  else if Text.inRanges Text.punctuationRanges c then .punctuation
  else .other

end SopDocs.Markdown
