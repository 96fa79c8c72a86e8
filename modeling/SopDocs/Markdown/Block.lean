import SopDocs.Markdown.Syntax
import SopDocs.Markdown.Target
/-!
Blocks before the text in them is read, and the containers that hold blocks. A container stays open
as long as each line continues it with a mark or an indent of its own.
-/

namespace SopDocs.Markdown

open SopDocs.Tree (Span)

/-- A block: what it is, the text that is to be read in it, and the blocks in it. -/
structure Block where
  content : Content
  span : Span
  text : List Glyph
  children : List Block
deriving Inhabited

/-- A block without text of its own. -/
def Block.of (content : Content) (start stop : Nat) (children : List Block) : Block :=
  ⟨content, ⟨start, stop⟩, [], children⟩

/-- Columns that make a line code. -/
def codeIndent : Nat := 4

/-- A text up to its first character that is no space, if that is not indented as code is. -/
def unindented? (gs : List Glyph) : Option (List Glyph) :=
  if indent gs < codeIndent then some (skipSpaces gs) else none

/-! ### Containers -/

/-- A container. An item needs an indent of `size`; one that started with a blank line ends at the
next blank line. -/
inductive Container where
  | document
  | quote
  | item (mark : Char) (size : Nat) (blankStart : Bool)
  | footnote (identifier : String)
deriving DecidableEq, Inhabited

/-- The rest of a line after the mark of a quote and one space. -/
def afterQuoteMark? (gs : List Glyph) : Option (List Glyph) :=
  (unindented? gs).bind fun r =>
    match r with
    | [] => none
    | g :: t =>
      if g.char == '>' then
        match t with
        | h :: u => some (if h.isSpace then u else t)
        | [] => some []
      else none

/-- The rest of a line that continues a container, and the container from then on. -/
def Container.next? (container : Container) (gs : List Glyph) : Option (Container × List Glyph) :=
  match container with
  | .document => some (.document, gs)
  | .quote => (afterQuoteMark? gs).map fun r => (.quote, r)
  | .item mark size blankStart =>
    if isBlankText gs then
      if blankStart then none else some (container, dropSpaces size gs)
    else if size ≤ indent gs then some (.item mark size false, gs.drop size)
    else none
  | .footnote _ =>
    if isBlankText gs then some (container, gs)
    else if codeIndent ≤ indent gs then some (container, gs.drop codeIndent)
    else none

/-- Whether a line is a thematic break: three or more of one mark, and spaces. -/
def isThematicBreak (gs : List Glyph) : Bool :=
  match (unindented? gs).getD [] with
  | [] => false
  | g :: r =>
    (g.char == '*' || g.char == '-' || g.char == '_') &&
      r.all (fun h => h.isSpace || h.char == g.char) && 3 ≤ ((g :: r).filter (! ·.isSpace)).length

def longestNumber : Nat := 9

/-- The mark of an item at the start of a line: the character that its list has in common, whether
the item may follow a paragraph directly, the size of the mark, and the rest. -/
def itemMark? (gs : List Glyph) : Option (Char × Bool × Nat × List Glyph) :=
  match gs with
  | [] => none
  | g :: r =>
    if g.char == '*' || g.char == '-' || g.char == '+' then some (g.char, true, 1, r)
    else
      let digits := gs.takeWhile (·.char.isDigit)
      match gs.dropWhile (·.char.isDigit) with
      | [] => none
      | h :: t =>
        if !digits.isEmpty && digits.length ≤ longestNumber && (h.char == '.' || h.char == ')') then
          some (h.char, digits.map (·.char) == ['1'], digits.length + 1, t)
        else none

/-- The item that a line opens, and the rest of the line. After a paragraph an item neither starts
blank nor with another number than one. Up to four spaces after the mark belong to the indent of the
item. -/
def openItem? (afterParagraph : Bool) (gs : List Glyph) : Option (Container × List Glyph) :=
  if isThematicBreak gs then none
  else
    (unindented? gs).bind itemMark? |>.bind fun (mark, mayFollow, size, r) =>
      let size := indent gs + size
      if isBlankText r then
        if afterParagraph then none else some (.item mark (size + 1) true, r)
      else if indent r = 0 || (afterParagraph && !mayFollow) then none
      else
        let spaces := if indent r ≤ codeIndent then indent r else 1
        some (.item mark (size + spaces) false, r.drop spaces)

/-- The label of the footnote that a line defines, and the rest of the line. -/
def footnoteMark? (gs : List Glyph) : Option (List Glyph × List Glyph) :=
  match (unindented? gs).getD [] with
  | a :: b :: r =>
    if a.char == '[' && b.char == '^' then
      (footnoteLabel? r).bind fun (label, r) =>
        match r with
        | g :: t => if g.char == ':' then some (label, skipSpaces t) else none
        | [] => none
    else none
  | _ => none

/-- The container that a line opens, and the rest of the line. -/
def openContainer? (afterParagraph : Bool) (gs : List Glyph) : Option (Container × List Glyph) :=
  match afterQuoteMark? gs with
  | some r => some (.quote, r)
  | none =>
    match openItem? afterParagraph gs with
    | some p => some p
    | none => (footnoteMark? gs).map fun p =>
      (.footnote (keyIdentifier (labelKey (textOf p.1))), p.2)

/-- A container that is open: where it starts, the blocks in it so far, last one first, and the mark
of the items if the last block is a list. -/
structure Frame where
  container : Container
  start : Nat
  blocks : List Block
  listMark : Option Char
deriving Inhabited

namespace Frame

def opened (container : Container) (start : Nat) : Frame := ⟨container, start, [], none⟩

def add (frame : Frame) (block : Block) : Frame :=
  { frame with blocks := block :: frame.blocks, listMark := none }

/-- Whether items with a mark are numbered. -/
def isOrdered (mark : Char) : Bool := mark == '.' || mark == ')'

/-- Adds a list of one item. -/
def addList (frame : Frame) (mark : Char) (item : Block) : Frame :=
  let list := Block.of (.list (isOrdered mark)) item.span.start item.span.stop [item]
  { frame with blocks := list :: frame.blocks, listMark := some mark }

/-- Adds an item, to the list before it if that has its mark. -/
def addItem (frame : Frame) (mark : Char) (item : Block) : Frame :=
  match frame.blocks with
  | list :: r =>
    if frame.listMark == some mark then
      let list :=
        { list with
          span := ⟨list.span.start, item.span.stop⟩
          children := list.children ++ [item] }
      { frame with blocks := list :: r }
    else frame.addList mark item
  | [] => frame.addList mark item

/-- Adds what a frame in it becomes when it ends at an offset, or where its last block does. -/
def close (outer inner : Frame) (stop : Nat) : Frame :=
  let stop := max stop ((inner.blocks.head?.map (·.span.stop)).getD 0)
  let block (content : Content) := Block.of content inner.start stop inner.blocks.reverse
  match inner.container with
  | .document => outer
  | .quote => outer.add (block .quote)
  | .item mark _ _ => outer.addItem mark (block .item)
  | .footnote identifier => outer.add (block (.footnoteDefinition identifier))

end Frame

end SopDocs.Markdown
