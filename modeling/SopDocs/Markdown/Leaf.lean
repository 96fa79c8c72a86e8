import SopDocs.Markdown.TableRow
import SopDocs.Markdown.Html
/-!
Blocks that hold no other blocks, and what a line does to the one that is open. Where a block ends,
it becomes finished blocks: the text of a paragraph may start with definitions.
-/

namespace SopDocs.Markdown

/-- A block of code between fences: the mark and its number, the indent of the fence, and the
language. -/
structure Fence where
  mark : Char
  size : Nat
  indent : Nat
  language : Option String
deriving DecidableEq, Inhabited

/-- The block that is open, with its lines, last one first. The first line of code between fences
stands for the end of the fence. `afterUnderline` says that the line before, or the first line of
the paragraph, is a row of marks that could underline a heading. -/
inductive Leaf where
  | none (afterUnderline : Bool)
  | paragraph (lines : List Line) (afterUnderline : Bool)
  | fence (fence : Fence) (start : Nat) (lines : List Line)
  | html (kind : Html.Block) (start : Nat) (lines : List Line)
  | code (start stop : Nat) (lines blanks : List Line)
  | table (start stop : Nat) (rows : List Block)
deriving Inhabited

/-! ### Finished blocks -/

/-- The text of lines, last one first; `ended` adds the end of the last one. -/
def rawText (ended : Bool) : List Line → List Char
  | [] => []
  | l :: r => rawText true r ++ textOf l.glyphs ++ (if ended then l.ending else [])

/-- Drops a line end at the start of a text. -/
def dropEndAtStart : List Char → List Char
  | '\r' :: '\n' :: r => r
  | '\n' :: r => r
  | '\r' :: r => r
  | r => r

/-- Drops a line end at the end of a text. -/
def dropEndAtEnd (cs : List Char) : List Char :=
  match cs.reverse with
  | '\n' :: '\r' :: r => r.reverse
  | '\n' :: r => r.reverse
  | '\r' :: r => r.reverse
  | _ => cs

/-- Where lines, last one first, stop. -/
def stopOfLines (ended : Bool) (lines : List Line) : Nat :=
  match lines with
  | [] => 0
  | l :: _ => if ended then l.next else l.stop

/-- The definitions at the start of a text, and the rest of it; `fuel` bounds their number. -/
def leadingDefinitions (source : List Char) : Nat → List Glyph → List Block × List Glyph
  | 0, gs => ([], gs)
  | fuel + 1, gs =>
    match definition? gs with
    | none => ([], gs)
    | some (label, (url, title), rest) =>
      let read := taken gs rest
      let stop := match read.getLast? with
        | some g => if g.isEnd then g.start else g.stop
        | none => 0
      let key := keyAt source (startOf 0 label) (stopOf 0 label)
      let (blocks, rest) := leadingDefinitions source fuel rest
      (.of (.definition (keyIdentifier key) url title) (startOf 0 gs) stop [] :: blocks, rest)

/-- A block whose text is to be read. -/
def textBlock (content : Content) (gs : List Glyph) (stop : Nat) : Block :=
  ⟨content, ⟨startOf stop gs, stop⟩, gs, []⟩

/-- Definitions and then a paragraph, as far as there is text for it. -/
def contentBlocks (source : List Char) (gs : List Glyph) : List Block :=
  let (blocks, rest) := leadingDefinitions source gs.length gs
  if rest.isEmpty then blocks else blocks ++ [textBlock .paragraph rest (stopOf 0 rest)]

/-- The blocks of the lines of a paragraph, last one first. The row of marks that the paragraph may
start with is text; definitions may follow it. -/
def paragraphBlocks (source : List Char) (lines : List Line) (afterUnderline : Bool) : List Block :=
  let gs := joinLines lines.reverse
  if afterUnderline then
    let first := gs.takeWhile (! ·.isEnd)
    let rest := (gs.dropWhile (! ·.isEnd)).drop 1
    if (leadingDefinitions source 1 rest).1.isEmpty then
      [textBlock .paragraph gs (stopOf 0 gs)]
    else textBlock .paragraph first (stopOf 0 first) :: contentBlocks source rest
  else contentBlocks source gs

/-- The block of code between fences that stops at an offset. -/
def Fence.block (fence : Fence) (start stop : Nat) (ended : Bool) (lines : List Line) : Block :=
  let value := dropEndAtEnd (dropEndAtStart (rawText ended lines))
  .of (.codeBlock fence.language (String.ofList value)) start stop []

/-- What an open block becomes when it ends; `ended` says whether the end of its last line may
belong to it, as it does where nothing closes a fence. -/
def Leaf.blocks (source : List Char) (ended : Bool) (leaf : Leaf) : List Block :=
  match leaf with
  | .none _ => []
  | .paragraph lines afterUnderline => paragraphBlocks source lines afterUnderline
  | .fence opening start lines => [opening.block start (stopOfLines ended lines) ended lines]
  | .html kind start lines =>
    let ended := ended && !kind.endsAtBlank
    [.of (.html (String.ofList (rawText ended lines))) start (stopOfLines ended lines) []]
  | .code start stop lines _ =>
    let text := String.ofList (dropEndAtEnd (rawText false lines))
    [.of (.codeBlock Option.none text) start stop []]
  | .table start stop rows => [.of .table start stop rows.reverse]

/-! ### Lines that start or end a block -/

/-- The fence that a line opens. Code between backquotes has none in the line of its fence. -/
def openFence? (gs : List Glyph) : Option Fence :=
  (unindented? gs).bind fun r =>
    match r with
    | [] => none
    | g :: _ =>
      let mark := g.char
      let size := (r.takeWhile (·.char == mark)).length
      let rest := skipSpaces (r.dropWhile (·.char == mark))
      if (mark == '\x60' || mark == '~') && 3 ≤ size &&
          !(mark == '\x60' && rest.any (·.char == '\x60')) then
        let word := rest.takeWhile (! ·.isSpace)
        let language := if word.isEmpty then none else some (String.ofList (unescape word))
        some ⟨mark, size, indent gs, language⟩
      else none

/-- Whether a line closes a fence. -/
def Fence.closes (fence : Fence) (gs : List Glyph) : Bool :=
  match unindented? gs with
  | none => false
  | some r =>
    fence.size ≤ (r.takeWhile (·.char == fence.mark)).length &&
      isBlankText (r.dropWhile (·.char == fence.mark))

/-- Drops the spaces and the words of number signs at the end of a text, given in reverse. -/
def dropSignWords : Nat → List Glyph → List Glyph
  | 0, gs => gs
  | fuel + 1, gs =>
    let gs := skipSpaces gs
    let word := gs.takeWhile (! ·.isSpace)
    if !word.isEmpty && word.all (·.char == '#') then
      dropSignWords fuel (gs.drop word.length)
    else gs

/-- The depth and the text of the heading that a line is. -/
def heading? (gs : List Glyph) : Option (Nat × List Glyph) :=
  (unindented? gs).bind fun r =>
    let depth := (r.takeWhile (·.char == '#')).length
    let rest := r.dropWhile (·.char == '#')
    if 1 ≤ depth && depth ≤ 6 && isBlankText (rest.take 1) then
      let text := rest.dropWhile fun g => g.isSpace || g.char == '#'
      some (depth, (dropSignWords text.length text.reverse).reverse)
    else none

/-- The depth of the heading that a line underlines. -/
def underline? (gs : List Glyph) : Option Nat :=
  (unindented? gs).bind fun r =>
    match r with
    | [] => none
    | g :: _ =>
      if isBlankText (r.dropWhile (·.char == g.char)) then
        if g.char == '=' then some 1 else if g.char == '-' then some 2 else none
      else none

/-- The kind of HTML that a line starts. -/
def openHtml? (mayComplete : Bool) (gs : List Glyph) : Option Html.Block :=
  (unindented? gs).bind fun r =>
    match r with
    | [] => none
    | g :: t => if g.char == '<' then Html.block? mayComplete (t.map (·.char)) else none

/-- What a line starts that is no text: finished blocks, and the block that is open then. -/
def start? (mayComplete : Bool) (line : Line) : Option (List Block × Leaf) :=
  let gs := line.glyphs
  let start := startOf line.stop gs
  match openFence? gs with
  | some fence => some ([], .fence fence start [{ line with glyphs := [] }])
  | none =>
    match openHtml? mayComplete gs with
    | some kind =>
      let leaf := Leaf.html kind start [line]
      if kind.endsIn (kind.afterOpening (((skipSpaces gs).drop 1).map (·.char))) then
        some (leaf.blocks [] false, .none false)
      else some ([], leaf)
    | none =>
      match heading? gs with
      | some (depth, text) => some ([⟨.heading depth, ⟨start, line.stop⟩, text, []⟩], .none false)
      | none =>
        if isThematicBreak gs then some ([.of .thematicBreak start line.stop []], .none false)
        else none

end SopDocs.Markdown
