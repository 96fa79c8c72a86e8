import SopDocs.Markdown.Leaf
/-!
Lines to blocks. Each line first continues the containers that are open, then may open others, and
what is left of it goes to the block that is open. A line of text continues a paragraph even if it
does not continue the containers around it.
-/

namespace SopDocs.Markdown

/-- The blocks so far: the open containers, innermost first and the document last, the open block,
and where the last line stopped. -/
structure Flow where
  frames : List Frame
  leaf : Leaf
  stop : Nat
deriving Inhabited

namespace Flow

def start : Flow := ⟨[.opened .document 0], .none false, 0⟩

/-- Adds finished blocks to the innermost container. -/
def add (flow : Flow) (blocks : List Block) : Flow :=
  match flow.frames with
  | [] => flow
  | f :: r => { flow with frames := blocks.foldl Frame.add f :: r }

/-- Ends the open block. -/
def closeLeaf (source : List Char) (ended : Bool) (flow : Flow) : Flow :=
  { flow.add (flow.leaf.blocks source ended) with leaf := .none false }

/-- Ends containers, innermost first, where the last line stopped. -/
def closeFrames (stop : Nat) : Nat → List Frame → List Frame
  | n + 1, inner :: outer :: r => closeFrames stop n (outer.close inner stop :: r)
  | _, frames => frames

def close (flow : Flow) (count : Nat) : Flow :=
  { flow with frames := closeFrames flow.stop count flow.frames }

/-- The containers, outermost first, that a line continues, those that it does not, and the rest of
the line. -/
def continued : List Frame → List Glyph → List Frame × List Frame × List Glyph
  | [], gs => ([], [], gs)
  | f :: r, gs =>
    match f.container.next? gs with
    | none => ([], f :: r, gs)
    | some (container, gs) =>
      let (kept, dropped, rest) := continued r gs
      ({ f with container := container } :: kept, dropped, rest)

/-- The containers that a line opens, outermost first, and the rest of the line; `fuel` bounds
their number. -/
def opened (stop : Nat) (afterParagraph : Bool) : Nat → List Glyph → List Frame × List Glyph
  | 0, gs => ([], gs)
  | fuel + 1, gs =>
    match openContainer? afterParagraph gs with
    | none => ([], gs)
    | some (container, rest) =>
      let (frames, last) := opened stop false fuel rest
      (.opened container (startOf stop gs) :: frames, last)

/-- Starts a block with a line that continues none; `lines` are those of the paragraph that the line
would continue. -/
def startLeaf (source : List Char) (flow : Flow) (line : Line) : Flow :=
  let (lines, afterUnderline) := match flow.leaf with
    | .paragraph lines afterUnderline => (lines, afterUnderline)
    | _ => ([], false)
  if isBlankText line.glyphs then flow.closeLeaf source false
  else if lines.isEmpty && codeIndent ≤ indent line.glyphs then
    { flow.closeLeaf source false with
      leaf := .code (startOf line.stop line.glyphs) line.stop
        [{ line with glyphs := line.glyphs.drop codeIndent }] [] }
  else
    match start? lines.isEmpty line with
    | some (blocks, leaf) => { (flow.closeLeaf source false).add blocks with leaf := leaf }
    | none =>
      if lines.isEmpty then
        { flow.closeLeaf source false with leaf := .paragraph [line] false }
      else { flow with leaf := .paragraph (line :: lines) afterUnderline }

/-- Makes a heading of a paragraph and its underline. Where the paragraph holds definitions only,
the underline is text. -/
def underlineParagraph (source : List Char) (flow : Flow) (lines : List Line)
    (afterUnderline : Bool) (depth : Nat) (line : Line) : Flow :=
  let blocks := paragraphBlocks source lines afterUnderline
  match blocks.getLast? with
  | some ⟨.paragraph, span, text, _⟩ =>
    { flow.add (blocks.dropLast ++ [⟨.heading depth, ⟨span.start, line.stop⟩, text, []⟩]) with
      leaf := .none true }
  | _ => { flow.add blocks with leaf := .paragraph [line] true }

/-- Makes a table of the last line of a paragraph and a delimiter row with as many columns. -/
def table? (source : List Char) (flow : Flow) (lines : List Line) (afterUnderline : Bool)
    (line : Line) : Option Flow :=
  match lines with
  | [] => none
  | head :: above =>
    (delimiterCount? line.glyphs).bind fun count =>
      if isHeadOf count head.glyphs && !(afterUnderline && above.isEmpty) then
        let blocks := if above.isEmpty then [] else paragraphBlocks source above afterUnderline
        some { flow.add blocks with
          leaf := .table (startOf head.stop head.glyphs) line.stop [rowBlock head] }
      else none

/-- Gives a line that continues all open containers to the open block. -/
def feedLeaf (source : List Char) (flow : Flow) (line : Line) : Flow :=
  let gs := line.glyphs
  match flow.leaf with
  | .fence opening start lines =>
    if opening.closes gs then
      { flow.add [opening.block start line.stop true lines] with leaf := .none false }
    else
      let code := { line with glyphs := dropSpaces opening.indent gs }
      { flow with leaf := .fence opening start (code :: lines) }
  | .html kind start lines =>
    if kind.endsAtBlank && isBlankText gs then flow.closeLeaf source false
    else
      let flow := { flow with leaf := .html kind start (line :: lines) }
      if kind.endsIn (gs.map (·.char)) then flow.closeLeaf source false else flow
  | .code start stop lines blanks =>
    if codeIndent ≤ indent gs then
      let code := { line with glyphs := gs.drop codeIndent }
      { flow with leaf := .code start line.stop (code :: (blanks ++ lines)) [] }
    else if isBlankText gs then
      { flow with leaf := .code start stop lines ({ line with glyphs := [] } :: blanks) }
    else startLeaf source flow line
  | .paragraph lines afterUnderline =>
    match table? source flow lines afterUnderline line with
    | some flow => flow
    | none =>
      match underline? gs with
      | some depth => underlineParagraph source flow lines afterUnderline depth line
      | none => startLeaf source flow line
  | .none true =>
    if (underline? gs).isSome then { flow with leaf := .paragraph [line] true }
    else startLeaf source flow line
  | .none false => startLeaf source flow line
  | .table start _ rows =>
    if isBlankText gs || codeIndent ≤ indent gs || (start? true line).isSome then
      startLeaf source flow line
    else { flow with leaf := .table start line.stop (rowBlock line :: rows) }

/-- Whether a line that does not continue all containers is text that continues a paragraph. -/
def isLazy (leaf : Leaf) (line : Line) : Bool :=
  match leaf with
  | .paragraph _ _ => !isBlankText line.glyphs && (start? true line).isNone
  | .none true =>
    !isBlankText line.glyphs && indent line.glyphs < codeIndent && (start? true line).isNone
  | _ => false

/-- Whether the open block takes all lines until it ends. -/
def isVerbatim (leaf : Leaf) : Bool :=
  match leaf with
  | .fence _ _ _ | .html _ _ _ => true
  | _ => false

/-- Reads one line. -/
def feed (source : List Char) (flow : Flow) (line : Line) : Flow :=
  let (kept, dropped, gs) := continued flow.frames.reverse line.glyphs
  let all : Flow := { flow with frames := (kept ++ dropped).reverse }
  let next : Flow :=
    if dropped.isEmpty && isVerbatim flow.leaf then feedLeaf source all { line with glyphs := gs }
    else
      let afterParagraph := dropped.isEmpty && match flow.leaf with
        | .paragraph _ false => true
        | _ => false
      let (frames, rest) := opened line.stop afterParagraph gs.length gs
      let rest := { line with glyphs := rest }
      if !frames.isEmpty then
        let closed := (all.closeLeaf source true).close dropped.length
        feedLeaf source { closed with frames := frames.reverse ++ closed.frames } rest
      else if dropped.isEmpty then feedLeaf source all rest
      else if isLazy flow.leaf rest then
        match flow.leaf with
        | .paragraph lines afterUnderline =>
          { all with leaf := .paragraph (rest :: lines) afterUnderline }
        | _ => { all with leaf := .paragraph [rest] false }
      else feedLeaf source ((all.closeLeaf source false).close dropped.length) rest
  { next with stop := line.stop }

/-- The blocks of a document, when all lines are read. -/
def finish (source : List Char) (flow : Flow) : List Block :=
  let closed := flow.closeLeaf source true
  match (closed.close closed.frames.length).frames with
  | f :: _ => f.blocks.reverse
  | [] => []

end Flow

/-- The blocks of a source. -/
def blocksOf (source : List Char) : List Block :=
  ((sourceLines source).foldl (Flow.feed source) .start).finish source

end SopDocs.Markdown
