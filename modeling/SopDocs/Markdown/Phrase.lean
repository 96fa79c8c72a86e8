import SopDocs.Markdown.Autolink
import SopDocs.Markdown.Syntax
/-!
Phrases: pieces of text put together into syntax elements. Runs of `*`, `_` and `~` are matched,
closers from left to right and each with the nearest opener that fits it; what they enclose becomes
an element. What is left is text, without the spaces around its line ends.
-/

namespace SopDocs.Markdown

/-- A piece of a phrase. A literal is text that was written in another way. -/
inductive Piece where
  | data (glyphs : List Glyph)
  | lineEnd (glyph : Glyph)
  | hardBreak (start : Nat)
  | literal (text : List Char) (start stop : Nat)
  | run (glyphs : List Glyph) (opens closes : Bool)
  | element (element : Element)
deriving Inhabited

/-! ### Text -/

/-- Runs that enclose nothing are text; text next to text is one piece. -/
def joinText : List Piece → List Piece
  | [] => []
  | .data gs :: r => joined gs (joinText r)
  | .run gs _ _ :: r => joined gs (joinText r)
  | p :: r => p :: joinText r
where
  /-- Puts text in front of pieces. -/
  joined (gs : List Glyph) : List Piece → List Piece
    | .data hs :: r => .data (gs ++ hs) :: r
    | r => .data gs :: r

/-- A part of the result: text with its span, or an element. -/
inductive Atom where
  | text (text : List Char) (start stop : Nat)
  | element (element : Element)
deriving Inhabited

/-- An element for a line break. -/
def breakElement (start stop : Nat) : Element := ⟨.break, ⟨start, stop⟩, []⟩

def textElement (text : List Char) (start stop : Nat) : Element :=
  ⟨.text (String.ofList text), ⟨start, stop⟩, []⟩

/-- A link that shows its own address. -/
def addressElement (before : String) (shown : List Glyph) (start stop : Nat) : Element :=
  let text := textOf shown
  ⟨.link (before ++ String.ofList text) none, ⟨start, stop⟩,
    [textElement text (startOf start shown) (stopOf stop shown)]⟩

def dataAtom (gs : List Glyph) : List Atom :=
  if gs.isEmpty then [] else [.text (textOf gs) (startOf 0 gs) (stopOf 0 gs)]

/-- Text with the mail addresses in it as links, where links may be. -/
def dataAtoms (links : Bool) (gs : List Glyph) : List Atom :=
  if links then
    (Autolink.parts gs).flatMap fun part =>
      match part with
      | .plain gs => dataAtom gs
      | .address before gs => [.element (addressElement before gs (startOf 0 gs) (stopOf 0 gs))]
  else dataAtom gs

/-- The spaces at the end of a text. -/
def trailingSpaces (gs : List Glyph) : List Glyph := (gs.reverse.takeWhile Glyph.isSpace).reverse

/-- Whether the spaces at the end of a line break it: two or more, and no tab among them. -/
def breaksLine (spaces : List Glyph) : Bool :=
  2 ≤ spaces.length && spaces.all fun g => g.char == ' ' && !g.isFilling

/-- Atoms of pieces. Text loses the spaces next to a line end and, with `outermost`, those at the
end of the phrase; `trims` says whether it loses those at its start. After a hard break the line end
belongs to the break that started at `broken`. -/
def atoms (links outermost trims : Bool) (broken : Option Nat) : List Piece → List Atom
  | [] => []
  | .data gs :: r =>
    let atEnd := match r with
      | [] => outermost
      | .lineEnd _ :: _ => true
      | _ => false
    let spaces := if atEnd then trailingSpaces gs else []
    let kept := gs.take (gs.length - spaces.length)
    let kept := if trims then skipSpaces kept else kept
    dataAtoms links kept ++
      atoms links outermost false
        (if !r.isEmpty && breaksLine spaces then some (startOf 0 spaces) else none) r
  | .lineEnd g :: r =>
    match broken with
    | some start => .element (breakElement start g.stop) :: atoms links outermost true none r
    | none => .text g.text g.start g.stop :: atoms links outermost true none r
  | .hardBreak start :: r => atoms links outermost false (some start) r
  | .literal text start stop :: r => .text text start stop :: atoms links outermost false none r
  | .run gs _ _ :: r => dataAtom gs ++ atoms links outermost false none r
  | .element e :: r => .element e :: atoms links outermost false none r

/-- Elements of atoms: text next to text is one element. -/
def elementsOf : List Atom → List Element
  | [] => []
  | .element e :: r => e :: elementsOf r
  | .text t start stop :: r => joined t start stop (elementsOf r)
where
  /-- Puts text in front of elements. -/
  joined (t : List Char) (start stop : Nat) : List Element → List Element
    | ⟨.text value, span, []⟩ :: r =>
      ⟨.text (String.ofList t ++ value), ⟨start, span.stop⟩, []⟩ :: r
    | r => textElement t start stop :: r

/-- The elements of pieces without runs that enclose something. -/
def elementsOfPieces (links outermost trims : Bool) (pieces : List Piece) : List Element :=
  elementsOf (atoms links outermost trims none (joinText pieces))

/-! ### Emphasis -/

/-- Characters that mark emphasis. -/
def isEmphasisMark (c : Char) : Bool := c == '*' || c == '_' || c == '~'

/-- Whether a run of marks may open and may close, by the characters around it. -/
def runFlanks (mark before after : Char) : Bool × Bool :=
  let left := flankOf before
  let right := flankOf after
  let opens := right == .other || (right == .punctuation && left != .other) ||
    (mark != '~' && isEmphasisMark after)
  let closes := left == .other || (left == .punctuation && right != .other) ||
    (mark != '~' && isEmphasisMark before)
  if mark == '_' then
    (opens && (left != .other || !closes), closes && (right != .other || !opens))
  else (opens, closes)

/-- The run of a mark at the start of a text. -/
def runPiece (gs : List Glyph) : Piece :=
  match gs, gs.getLast? with
  | first :: _, some last =>
    let (opens, closes) := runFlanks first.char first.before last.after
    .run gs opens closes
  | _, _ => .data gs

/-- Whether an opening run fits a closing one. Where one of them could do both, their sizes may not
add up to a multiple of three unless the closing one's is one; tildes come in ones or twos of equal
number. -/
def fits (opener closer : List Glyph) (openerCloses closerOpens : Bool) : Bool :=
  let mark := (closer.head?.map (·.char)).getD ' '
  (opener.head?.map (·.char)).getD ' ' == mark &&
    !((openerCloses || closerOpens) && closer.length % 3 != 0 &&
      (opener.length + closer.length) % 3 == 0) &&
    !(mark == '~' && (opener.length != closer.length || 2 < closer.length))

/-- The nearest opening run that fits, among pieces in reverse: what is after it, its text and
whether it could close, and what is before it. -/
def opener? (closer : List Glyph) (closerOpens : Bool) :
    List Piece → Option (List Piece × (List Glyph × Bool) × List Piece)
  | [] => none
  | .run gs opens closes :: r =>
    if opens && fits gs closer closes closerOpens then some ([], (gs, closes), r)
    else (opener? closer closerOpens r).map fun p => (.run gs opens closes :: p.1, p.2)
  | p :: r => (opener? closer closerOpens r).map fun q => (p :: q.1, q.2)

/-- What a number of marks makes of the text between them. -/
def emphasisContent (mark : Char) (count : Nat) : Content :=
  if mark == '~' then .delete else if count = 1 then .emphasis else .strong

/-- Closes runs with a run, as long as it fits one: the pieces before it in reverse, with it. -/
def closeRun (links : Bool) : Nat → List Piece → List Glyph → Bool → List Piece
  | 0, before, gs, opens => .run gs opens true :: before
  | fuel + 1, before, gs, opens =>
    match opener? gs opens before with
    | none => .run gs opens true :: before
    | some (inner, (opener, openerCloses), outer) =>
      let count := if 1 < opener.length && 1 < gs.length then 2 else 1
      let used := opener.drop (opener.length - count)
      let left := opener.take (opener.length - count)
      let content := emphasisContent ((gs.head?.map (·.char)).getD ' ') count
      let element : Element :=
        ⟨content, ⟨startOf 0 used, stopOf 0 (gs.take count)⟩,
          elementsOfPieces links false false inner.reverse⟩
      let outer := if left.isEmpty then outer else .run left true openerCloses :: outer
      let rest := gs.drop count
      if rest.isEmpty then .element element :: outer
      else closeRun links fuel (.element element :: outer) rest opens

/-- Pieces with their runs matched, from pieces in order to pieces in reverse. -/
def matchRuns (links : Bool) (pieces : List Piece) : List Piece :=
  pieces.foldl (fun before p =>
    match p with
    | .run gs opens true => closeRun links gs.length before gs opens
    | p => p :: before) []

/-- The elements of a phrase. `links` says whether links may be in it, `outermost` whether it is no
part of another phrase, `trims` whether the spaces at its start are dropped. -/
def phrase (links outermost trims : Bool) (pieces : List Piece) : List Element :=
  elementsOfPieces links outermost trims (matchRuns links pieces).reverse

end SopDocs.Markdown
