import SopDocs.Markdown.Phrase
import SopDocs.Markdown.Target
import SopDocs.Markdown.Html
/-!
Text within a block: code, HTML, links and images, references, escapes and emphasis. A label is open
from its bracket on until the next closing bracket that no other label takes. A link holds no other
link.
-/

namespace SopDocs.Markdown

/-- What the text of a document may refer to: the keys of definitions and of footnotes, and the
source where labels are looked up. Within a table a bar in code is escaped. -/
structure Scope where
  source : List Char
  definitions : List (List Char)
  footnotes : List (List Char)
  inTable : Bool
deriving Inhabited

/-! ### Code -/

/-- The first run of exactly `size` backquotes: the text before it and the rest after it. `seen`
counts the backquotes directly before. -/
def closingTicks? (size seen : Nat) : List Glyph → Option (List Glyph × List Glyph)
  | [] => if seen = size then some ([], []) else none
  | g :: r =>
    if g.char == '\x60' then (closingTicks? size (seen + 1) r).map fun p => (g :: p.1, p.2)
    else if seen = size then some ([], g :: r)
    else (closingTicks? size 0 r).map fun p => (g :: p.1, p.2)

/-- Code without the one space on either side that pads it, if it holds more than spaces. -/
def unpadded (cs : List Char) : List Char :=
  if 2 < cs.length && cs.head? == some ' ' && cs.getLast? == some ' ' && cs.any (· != ' ') then
    (cs.drop 1).dropLast
  else cs

/-- Code with its escaped bars as bars. -/
def unescapeBars : List Char → List Char
  | '\\' :: '|' :: r => '|' :: unescapeBars r
  | c :: r => c :: unescapeBars r
  | [] => []

/-- The code at the start of a text, which starts with backquotes: its element and the rest. -/
def code? (inTable : Bool) (gs : List Glyph) : Option (Element × List Glyph) :=
  let ticks := gs.takeWhile (·.char == '\x60')
  let size := ticks.length
  (closingTicks? size 0 (gs.drop size)).map fun (body, rest) =>
    let text := unpadded (textOf (body.take (body.length - size)))
    let text := if inTable then unescapeBars text else text
    (⟨.code (String.ofList text), ⟨startOf 0 gs, stopOf 0 body⟩, []⟩, rest)

/-! ### Labels -/

inductive LabelKind where
  | link
  | image
  | footnote
deriving DecidableEq, Inhabited

/-- An open label: its opening, the pieces before it in reverse, and whether it may become a link.
-/
structure OpenLabel where
  kind : LabelKind
  opening : List Glyph
  before : List Piece
  active : Bool
deriving Inhabited

/-- Text that is read so far: the open labels, innermost first, the pieces of the innermost in
reverse, and the character before the next one. -/
structure Reading where
  labels : List OpenLabel
  pieces : List Piece
  previous : Option Char
deriving Inhabited

namespace Reading

def start : Reading := ⟨[], [], none⟩

/-- Adds a piece that ends with a character. -/
def add (state : Reading) (piece : Piece) (last : Option Char) : Reading :=
  { state with pieces := piece :: state.pieces, previous := last }

def addData (state : Reading) (gs : List Glyph) : Reading :=
  state.add (.data gs) (gs.getLast?.map (·.char))

def openLabel (state : Reading) (kind : LabelKind) (opening : List Glyph) : Reading :=
  ⟨⟨kind, opening, state.pieces, true⟩ :: state.labels, [], opening.getLast?.map (·.char)⟩

/-- The pieces of a reading, in order: labels that are still open are text. -/
def finish (state : Reading) : List Piece :=
  (state.labels.foldl (fun inner l => inner ++ .data l.opening :: l.before) state.pieces).reverse

end Reading

/-- What a label makes of the text in it. -/
def labelElement (label : OpenLabel) (pieces : List Piece) (start stop : Nat)
    (key : List Char) (target : Option (String × Option String)) : Element :=
  let children :=
    if label.kind = .image then []
    else
      let caret := if label.kind = .footnote then [Piece.data (label.opening.drop 1)] else []
      phrase false false false (caret ++ pieces.reverse)
  let content := match label.kind, target with
    | .image, some (url, title) => Content.image url title
    | .image, none => .imageReference (keyIdentifier key)
    | _, some (url, title) => .link url title
    | _, none => .linkReference (keyIdentifier key)
  ⟨content, ⟨start, stop⟩, children⟩

/-- The target and the rest of the label that a bracket closes, if it becomes a link, an image or a
reference: `none` for a target that the key names. -/
def closing? (scope : Scope) (key : List Char) (rest : List Glyph) :
    Option (List Char × Option (String × Option String) × List Glyph) :=
  let defined := scope.definitions.contains key
  let shortcut := if defined then some (key, none, rest) else none
  match rest with
  | [] => shortcut
  | g :: r =>
    if g.char == '(' then
      match resource? r with
      | some (target, r) => some (key, some target, r)
      | none => shortcut
    else if g.char == '[' then
      let full := (label? r).bind fun (label, r) =>
        let other := keyAt scope.source (startOf 0 label) (stopOf 0 label)
        if scope.definitions.contains other then some (other, none, r) else none
      match full with
      | some p => some p
      | none =>
        match r with
        | h :: t => if defined && h.char == ']' then some (key, none, t) else none
        | [] => none
    else shortcut

/-- A label that is complete: the labels around it may be links no more, unless it is an image. -/
def Reading.closeWith (state : Reading) (label : OpenLabel) (labels : List OpenLabel)
    (element : Element) (last : Option Char) : Reading :=
  let labels := if label.kind = .image then labels
    else labels.map fun l => if l.kind = .image then l else { l with active := false }
  { state with
    labels := labels
    pieces := .element element :: label.before
    previous := last }

/-- Reads a closing bracket, with the text after it. -/
def closeLabel (scope : Scope) (state : Reading) (bracket : Glyph) (rest : List Glyph) :
    Reading × List Glyph :=
  match state.labels with
  | [] => (state.addData [bracket], rest)
  | label :: labels =>
    let refused : Reading × List Glyph :=
      ({ state with
          labels := labels
          pieces := .data [bracket] :: (state.pieces ++ .data label.opening :: label.before)
          previous := some bracket.char }, rest)
    if !label.active then refused
    else
      let start := startOf 0 label.opening
      let key := keyAt scope.source (stopOf 0 label.opening) bracket.start
      if label.kind = .footnote && scope.footnotes.contains key then
        let element : Element := ⟨.footnoteReference, ⟨start, bracket.stop⟩, []⟩
        (state.closeWith label labels element (some ']'), rest)
      else
        let key := if label.kind = .footnote then '^' :: key else key
        match closing? scope key rest with
        | none => refused
        | some (key, target, after) =>
          let read := bracket :: taken rest after
          let element := labelElement label state.pieces start (stopOf 0 read) key target
          (state.closeWith label labels element (read.getLast?.map (·.char)), after)

/-! ### Text -/

/-- Reads one construct at the start of a text that is not empty: `g` and `r`. -/
def readOne (scope : Scope) (state : Reading) (g : Glyph) (r : List Glyph) : Reading × List Glyph :=
  let plain : Reading × List Glyph := (state.addData [g], r)
  if g.isEnd then (state.add (.lineEnd g) (some '\n'), r)
  else if g.char == '\\' then
    match r with
    | [] => plain
    | h :: t =>
      if h.isEnd then (state.add (.hardBreak g.start) (some '\\'), r)
      else if isAsciiPunctuation h.char then
        (state.add (.literal [h.char] h.start h.stop) (some h.char), t)
      else plain
  else if g.char == '&' then
    match reference? r with
    | none => plain
    | some (cs, rest) =>
      (state.add (.literal cs g.start (stopOf 0 (taken r rest))) (some ';'), rest)
  else if g.char == '\x60' then
    match code? scope.inTable (g :: r) with
    | some (element, rest) => (state.add (.element element) (some '\x60'), rest)
    | none =>
      let rest := r.dropWhile (·.char == '\x60')
      (state.addData (taken (g :: r) rest), rest)
  else if isEmphasisMark g.char then
    let rest := r.dropWhile (·.char == g.char)
    (state.add (runPiece (taken (g :: r) rest)) (some g.char), rest)
  else if g.char == '<' then
    match Autolink.bracketed? r with
    | some (before, shown, rest) =>
      let stop := stopOf 0 (taken r rest)
      (state.add (.element (addressElement before shown g.start stop)) (some '>'), rest)
    | none =>
      match Html.afterInline? r with
      | some rest =>
        let read := g :: taken r rest
        let text := String.ofList (Html.inlineText false read)
        (state.add (.element ⟨.html text, ⟨g.start, stopOf 0 read⟩, []⟩) (some '>'), rest)
      | none => plain
  else if g.char == 'h' || g.char == 'H' || g.char == 'w' || g.char == 'W' then
    match Autolink.bare? state.previous (g :: r) with
    | some (before, rest) =>
      let shown := taken (g :: r) rest
      (state.add (.element (addressElement before shown g.start (stopOf 0 shown)))
        (shown.getLast?.map (·.char)), rest)
    | none => plain
  else if g.char == '!' then
    match r with
    | h :: t =>
      if h.char == '[' && t.head?.map (·.char) != some '^' then (state.openLabel .image [g, h], t)
      else plain
    | [] => plain
  else if g.char == '[' then
    match r with
    | h :: t =>
      if h.char == '^' then (state.openLabel .footnote [g, h], t)
      else (state.openLabel .link [g], r)
    | [] => (state.openLabel .link [g], r)
  else if g.char == ']' then closeLabel scope state g r
  else plain

/-- Reads a text to its end; `fuel` bounds its length. -/
def readAll (scope : Scope) : Nat → Reading → List Glyph → Reading
  | 0, state, _ => state
  | _, state, [] => state
  | fuel + 1, state, g :: r =>
    let (state, rest) := readOne scope state g r
    readAll scope fuel state rest

/-- The elements of a text. `trims` says whether the spaces at its start are dropped. -/
def inline (scope : Scope) (trims : Bool) (gs : List Glyph) : List Element :=
  phrase true true trims (readAll scope gs.length .start gs).finish

end SopDocs.Markdown
