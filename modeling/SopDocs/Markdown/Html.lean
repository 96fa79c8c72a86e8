import SopDocs.Markdown.Source
import SopDocs.Text.Search
/-!
HTML in Markdown. Within a line of text an element, a comment, an instruction, a declaration or
character data counts if it is complete; the reader is a machine that goes from state to state,
character by character. A block of HTML starts with a line of one of seven kinds, and its kind says
where it ends.
-/

namespace SopDocs.Markdown.Html

/-! ### HTML within text -/

/-- How far the reader is. A quoted value keeps its quote, the word before character data what is
left of it. -/
inductive State where
  | opening
  | declarationOpening
  | declaration
  | commentOpening
  | comment
  | commentDash
  | commentDashes
  | dataOpening (word : List Char)
  | data
  | dataBracket
  | dataBrackets
  | instruction
  | instructionMark
  | closingTag
  | closingName
  | closingSpace
  | name
  | space
  | slash
  | attribute
  | attributeSpace
  | valueOpening
  | quoted (quote : Char)
  | quotedEnd
  | unquoted
deriving DecidableEq, Inhabited

/-- What a character does: it leads on, completes the construct, or does not belong there. -/
inductive Step where
  | to (state : State)
  | done
  | refused
deriving DecidableEq, Inhabited

def isNameChar (c : Char) : Bool := c.isAlphanum || c == '-'

def isAttributeStart (c : Char) : Bool := c.isAlpha || c == '_' || c == ':'

def isAttributeChar (c : Char) : Bool :=
  c.isAlphanum || c == '_' || c == ':' || c == '.' || c == '-'

def isSpace (c : Char) : Bool := c == ' ' || c == '\t' || c == '\n'

/-- Within an opening tag, where an attribute or the end may come. -/
def spaceStep (c : Char) : Step :=
  if c == '/' then .to .slash
  else if isAttributeStart c then .to .attribute
  else if isSpace c then .to .space
  else if c == '>' then .done
  else .refused

/-- Within an opening tag after an attribute's name. -/
def attributeSpaceStep (c : Char) : Step :=
  if c == '=' then .to .valueOpening
  else if isSpace c then .to .attributeSpace
  else spaceStep c

/-- Within an opening tag, where white space or the end has to come. -/
def tagStep (c : Char) : Step :=
  if c == '/' || c == '>' || isSpace c then spaceStep c else .refused

def commentStep (c : Char) : Step := .to (if c == '-' then .commentDash else .comment)

def dataStep (c : Char) : Step := .to (if c == ']' then .dataBracket else .data)

def step (state : State) (c : Char) : Step :=
  match state with
  | .opening =>
    if c == '!' then .to .declarationOpening
    else if c == '/' then .to .closingTag
    else if c == '?' then .to .instruction
    else if c.isAlpha then .to .name
    else .refused
  | .declarationOpening =>
    if c == '-' then .to .commentOpening
    else if c.isAlpha then .to .declaration
    else if c == '[' then .to (.dataOpening "CDATA[".toList)
    else .refused
  | .declaration => if c == '>' then .done else .to .declaration
  | .commentOpening => if c == '-' then .to .commentDashes else .refused
  | .comment => commentStep c
  | .commentDash => .to (if c == '-' then .commentDashes else .comment)
  | .commentDashes =>
    if c == '>' then .done else .to (if c == '-' then .commentDashes else .comment)
  | .dataOpening word =>
    match word with
    | [] => .refused
    | [w] => if c == w then .to .data else .refused
    | w :: ws => if c == w then .to (.dataOpening ws) else .refused
  | .data => dataStep c
  | .dataBracket => .to (if c == ']' then .dataBrackets else .data)
  | .dataBrackets =>
    if c == '>' then .done else .to (if c == ']' then .dataBrackets else .data)
  | .instruction => .to (if c == '?' then .instructionMark else .instruction)
  | .instructionMark =>
    if c == '>' then .done else .to (if c == '?' then .instructionMark else .instruction)
  | .closingTag => if c.isAlpha then .to .closingName else .refused
  | .closingName =>
    if isNameChar c then .to .closingName
    else if isSpace c then .to .closingSpace
    else if c == '>' then .done
    else .refused
  | .closingSpace =>
    if isSpace c then .to .closingSpace else if c == '>' then .done else .refused
  | .name => if isNameChar c then .to .name else tagStep c
  | .space => spaceStep c
  | .slash => if c == '>' then .done else .refused
  | .attribute => if isAttributeChar c then .to .attribute else attributeSpaceStep c
  | .attributeSpace => attributeSpaceStep c
  | .valueOpening =>
    if c == '<' || c == '=' || c == '>' || c == '\x60' then .refused
    else if c == '"' || c == '\'' then .to (.quoted c)
    else if isSpace c then .to .valueOpening
    else .to .unquoted
  | .quoted quote => .to (if c == quote then .quotedEnd else .quoted quote)
  | .quotedEnd => tagStep c
  | .unquoted =>
    if c == '"' || c == '\'' || c == '<' || c == '=' || c == '\x60' then .refused
    else if c == '/' || c == '>' || isSpace c then spaceStep c
    else .to .unquoted

/-- The rest of a text after the construct that is read from a state on. -/
def run (state : State) : List Glyph → Option (List Glyph)
  | [] => none
  | g :: r =>
    match step state g.char with
    | .to next => run next r
    | .done => some r
    | .refused => none

/-- The rest of a text after the HTML at its start, whose `<` is already read. -/
def afterInline? (gs : List Glyph) : Option (List Glyph) := run .opening gs

/-- HTML within text as written, but for the white space at the start of its lines. -/
def inlineText (atLineStart : Bool) : List Glyph → List Char
  | [] => []
  | g :: r =>
    if g.isEnd then g.text ++ inlineText true r
    else if atLineStart && g.isSpace then inlineText true r
    else g.text ++ inlineText false r

/-! ### Blocks of HTML -/

/-- The kinds of a block. -/
inductive Block where
  | raw
  | comment
  | instruction
  | declaration
  | data
  | basic
  | complete
deriving DecidableEq, Inhabited

/-- Elements whose text is kept as it is. -/
def rawNames : List String := ["pre", "script", "style", "textarea"]

/-- Elements that start a block whatever follows. -/
def basicNames : List String := [
  "address", "article", "aside", "base", "basefont", "blockquote", "body", "caption", "center",
  "col", "colgroup", "dd", "details", "dialog", "dir", "div", "dl", "dt", "fieldset", "figcaption",
  "figure", "footer", "form", "frame", "frameset", "h1", "h2", "h3", "h4", "h5", "h6", "head",
  "header", "hr", "html", "iframe", "legend", "li", "link", "main", "menu", "menuitem", "nav",
  "noframes", "ol", "optgroup", "option", "p", "param", "search", "section", "summary", "table",
  "tbody", "td", "tfoot", "th", "thead", "title", "tr", "track", "ul"]

def isEmptyOrSpaces (cs : List Char) : Bool := cs.all fun c => c == ' ' || c == '\t'

/-- Whether a line is, from a state within its first tag on, that tag alone. Here an unquoted value
may follow another one. -/
def completesLine (state : State) : List Char → Bool
  | [] => false
  | c :: r =>
    match if state == .unquoted && c == '=' then .to .valueOpening else step state c with
    | .to next => completesLine next r
    | .done => isEmptyOrSpaces r
    | .refused => false

/-- The kind of block that a line starts, its `<` already read. A complete tag of another name
starts a block only where it may. -/
def block? (mayComplete : Bool) (cs : List Char) : Option Block :=
  match cs with
  | '!' :: '-' :: '-' :: _ => some .comment
  | '!' :: '[' :: r => if "CDATA[".toList.isPrefixOf r then some .data else none
  | '!' :: c :: _ => if c.isAlpha then some .declaration else none
  | '?' :: _ => some .instruction
  | '/' :: r => tag? true r
  | r => tag? false r
where
  /-- The kind of block that starts with a tag. -/
  tag? (closing : Bool) (r : List Char) : Option Block :=
    match r with
    | [] => none
    | c :: _ =>
      if ! c.isAlpha then none
      else
        let name := String.ofList ((r.takeWhile isNameChar).map Char.toLower)
        let rest := r.dropWhile isNameChar
        let slash := rest.head? == some '/'
        if !(rest.isEmpty || slash || rest.head? == some '>' || isEmptyOrSpaces (rest.take 1)) then
          none
        else if !slash && !closing && rawNames.contains name then some .raw
        else if basicNames.contains name then
          if slash && (rest.drop 1).head? != some '>' then none else some .basic
        else if mayComplete && completesLine (if closing then .closingName else .name) rest then
          some .complete
        else none

/-- Whether character data ends in a line; brackets are taken in pairs. -/
def endsData : List Char → Bool
  | ']' :: ']' :: '>' :: _ => true
  | ']' :: ']' :: r => endsData r
  | _ :: r => endsData r
  | [] => false

/-- Whether a line of a block, its opening left out, holds the end of the block. -/
def Block.endsIn (kind : Block) (cs : List Char) : Bool :=
  match kind with
  | .raw => rawNames.any fun n => Text.occurs ("</" ++ n ++ ">").toList (cs.map Char.toLower)
  | .comment => Text.occurs "-->".toList cs
  | .instruction => Text.occurs "?>".toList cs
  | .declaration => cs.contains '>'
  | .data => endsData cs
  | .basic | .complete => false

/-- Whether a block ends at a blank line. -/
def Block.endsAtBlank (kind : Block) : Bool := kind == .basic || kind == .complete

/-- The first line of a block without its opening, as far as no end can start there. -/
def Block.afterOpening (kind : Block) (cs : List Char) : List Char :=
  match kind with
  | .comment => cs.drop 1
  | .data => cs.drop 8
  | _ => cs

end SopDocs.Markdown.Html
