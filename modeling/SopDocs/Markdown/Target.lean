import SopDocs.Markdown.Escape
import SopDocs.Markdown.Syntax
import SopDocs.Text.Case
import SopDocs.Text.Slice
/-!
The parts of links and of their definitions: labels, destinations and titles. Two labels name the
same definition if their keys are equal, that is up to case and up to the white space between words.
-/

namespace SopDocs.Markdown

/-! ### Labels -/

/-- White space between the words of a label. -/
def isLabelBlank (c : Char) : Bool := c == ' ' || c == '\t' || c == '\n' || c == '\r'

/-- The words of a label. -/
def labelWords : List Char → List (List Char)
  | [] => [[]]
  | c :: r =>
    match labelWords r with
    | w :: ws => if isLabelBlank c then [] :: w :: ws else (c :: w) :: ws
    | [] => [[c]]

/-- The words of a label with a space between them. Where the label starts with a word, the second
word follows it without a space. -/
def joinedLabel (label : List Char) : List Char :=
  let spaced (ws : List (List Char)) := ws.flatMap (' ' :: ·)
  match (labelWords label).filter (! ·.isEmpty) with
  | [] => []
  | [w] => w
  | w :: v :: ws =>
    if (label.head?.map isLabelBlank).getD true then w ++ spaced (v :: ws) else w ++ v ++ spaced ws

/-- What labels are compared by. -/
def labelKey (label : List Char) : List Char := Text.upper (Text.lower (joinedLabel label))

/-- The identifier that a key gives to a definition or a reference. -/
def keyIdentifier (key : List Char) : String := String.ofList (Text.lower key)

/-- The key of the label between two offsets of the source. -/
def keyAt (source : List Char) (start stop : Nat) : List Char :=
  labelKey ((Text.byteSlice? source start stop).getD [])

def longestLabel : Nat := 999

/-- The bytes of a text without its line ends. -/
def byteCount (gs : List Glyph) : Nat :=
  ((gs.filter (! ·.isEnd)).map fun g => g.char.utf8Size).foldl (· + ·) 0

/-- The text of a label up to its closing bracket, with the rest after that. -/
def labelText? (escaped seen : Bool) : List Glyph → Option (List Glyph × List Glyph)
  | [] => none
  | g :: r =>
    let next (escaped : Bool) :=
      (labelText? escaped (seen || !g.isBlank) r).map fun p => (g :: p.1, p.2)
    if escaped && (g.char == '[' || g.char == ']' || g.char == '\\') then next false
    else if g.char == '[' then none
    else if g.char == ']' then if seen then some ([], r) else none
    else next (g.char == '\\')

/-- A label whose opening bracket is already read. It holds more than white space. -/
def label? (gs : List Glyph) : Option (List Glyph × List Glyph) :=
  (labelText? false false gs).filter fun p => byteCount p.1 ≤ longestLabel

/-- The label of a footnote, read up to its closing bracket: one word. -/
def footnoteLabelText? (escaped : Bool) : List Glyph → Option (List Glyph × List Glyph)
  | [] => none
  | g :: r =>
    let next (escaped : Bool) := (footnoteLabelText? escaped r).map fun p => (g :: p.1, p.2)
    if escaped && (g.char == '[' || g.char == ']' || g.char == '\\') then next false
    else if g.isBlank || g.char == '[' then none
    else if g.char == ']' then some ([], r)
    else next (g.char == '\\')

/-- The label of a footnote that is not empty. -/
def footnoteLabel? (gs : List Glyph) : Option (List Glyph × List Glyph) :=
  (footnoteLabelText? false gs).filter fun p => !p.1.isEmpty && byteCount p.1 ≤ longestLabel

/-! ### Destinations and titles -/

/-- The rest of a destination in angle brackets. -/
def enclosed? (escaped : Bool) : List Glyph → Option (List Glyph × List Glyph)
  | [] => none
  | g :: r =>
    let next (escaped : Bool) := (enclosed? escaped r).map fun p => (g :: p.1, p.2)
    if escaped && (g.char == '<' || g.char == '>' || g.char == '\\') then next false
    else if g.isEnd || g.char == '<' then none
    else if g.char == '>' then some ([], r)
    else next (g.char == '\\')

def isControl (c : Char) : Bool := (0 < c.toNat && c.toNat < 0x20) || c.toNat == 0x7F

/-- The rest of a bare destination within a depth of parentheses, at most `limit`. -/
def bare? (limit depth : Nat) (escaped : Bool) : List Glyph → Option (List Glyph × List Glyph)
  | [] => if depth = 0 then some ([], []) else none
  | g :: r =>
    let next (depth : Nat) (escaped : Bool) :=
      (bare? limit depth escaped r).map fun p => (g :: p.1, p.2)
    if escaped && (g.char == '(' || g.char == ')' || g.char == '\\') then next depth false
    else if depth == 0 && (g.isBlank || g.char == ')') then some ([], g :: r)
    else if g.char == '(' && depth < limit then next (depth + 1) false
    else if isControl g.char || g.char == ' ' || g.char == '(' then none
    else if g.char == ')' then next (depth - 1) false
    else next depth (g.char == '\\')

/-- A destination at the start of a text, with the rest. -/
def destination? (limit : Nat) (gs : List Glyph) : Option (List Glyph × List Glyph) :=
  match gs with
  | [] => none
  | g :: r =>
    if g.char == '<' then enclosed? false r
    else if isControl g.char || g.char == ' ' || g.char == ')' then none
    else bare? limit 0 false gs

/-- The rest of a title up to its closing mark. -/
def titleText? (mark : Char) (escaped : Bool) : List Glyph → Option (List Glyph × List Glyph)
  | [] => none
  | g :: r =>
    let next (escaped : Bool) := (titleText? mark escaped r).map fun p => (g :: p.1, p.2)
    if escaped && (g.char == '"' || g.char == '\'' || g.char == ')' || g.char == '\\') then
      next false
    else if g.char == mark then some ([], r)
    else next (g.char == '\\')

/-- The mark that closes a title opened by another. -/
def closingMark? (c : Char) : Option Char :=
  if c == '"' || c == '\'' then some c else if c == '(' then some ')' else none

/-- Drops the spaces that follow an end of line. -/
def dropAfterEnds (afterEnd : Bool) : List Glyph → List Glyph
  | [] => []
  | g :: r =>
    if afterEnd && g.isSpace then dropAfterEnds true r else g :: dropAfterEnds g.isEnd r

/-- A text without the spaces around its line ends. -/
def trimAroundEnds (gs : List Glyph) : List Glyph :=
  dropAfterEnds false (dropAfterEnds false gs.reverse).reverse

def titleOf (gs : List Glyph) : Option String :=
  if gs.isEmpty then none else some (String.ofList (unescape (trimAroundEnds gs)))

/-- A title at the start of a text, with the rest; an empty one is no title. -/
def title? (gs : List Glyph) : Option (Option String × List Glyph) :=
  match gs with
  | [] => none
  | g :: r =>
    (closingMark? g.char).bind fun mark => (titleText? mark false r).map fun p => (titleOf p.1, p.2)

def urlOf (gs : List Glyph) : String := String.ofList (unescape gs)

def skipBlanks (gs : List Glyph) : List Glyph := gs.dropWhile Glyph.isBlank

/-- How deep parentheses nest in the destination of a resource. -/
def resourceDepth : Nat := 32

/-- The end of a resource. -/
def resourceEnd? (gs : List Glyph) : Option (List Glyph) :=
  match gs with
  | [] => none
  | g :: r => if g.char == ')' then some r else none

/-- A resource whose opening parenthesis is already read: the target of a link, and the rest. -/
def resource? (gs : List Glyph) : Option ((String × Option String) × List Glyph) :=
  match resourceEnd? (skipBlanks gs) with
  | some r => some (("", none), r)
  | none =>
    (destination? resourceDepth (skipBlanks gs)).bind fun (url, r) =>
      match skipBlanks r with
      | [] => none
      | g :: t =>
        if (r.head?.map Glyph.isBlank).getD false && (closingMark? g.char).isSome then
          (title? (g :: t)).bind fun (title, r) =>
            (resourceEnd? (skipBlanks r)).map fun r => ((urlOf url, title), r)
        else (resourceEnd? (g :: t)).map fun r => ((urlOf url, none), r)

/-! ### Definitions -/

/-- What follows on a line of spaces only: the rest after its end. -/
def lineEnd? (gs : List Glyph) : Option (List Glyph) :=
  match skipSpaces gs with
  | [] => some []
  | g :: r => if g.isEnd then some r else none

/-- A definition at the start of a text: the label, the target, and the rest on the next line. -/
def definition? (gs : List Glyph) :
    Option (List Glyph × (String × Option String) × List Glyph) := do
  let r ← after? '[' (skipSpaces gs)
  let (label, r) ← label? r
  let r ← after? ':' r
  let (url, r) ← destination? r.length (skipBlanks r)
  match titled? r with
  | some (title, rest) => return (label, (urlOf url, title), rest)
  | none => return (label, (urlOf url, none), ← lineEnd? r)
where
  /-- What follows a character at the start of a text. -/
  after? (c : Char) (gs : List Glyph) : Option (List Glyph) :=
    match gs with
    | [] => none
    | g :: r => if g.char == c then some r else none
  /-- White space and a title at the end of a line. -/
  titled? (gs : List Glyph) : Option (Option String × List Glyph) :=
    if (gs.head?.map Glyph.isBlank).getD false then
      (title? (skipBlanks gs)).bind fun p => (lineEnd? p.2).map fun r => (p.1, r)
    else none

end SopDocs.Markdown
