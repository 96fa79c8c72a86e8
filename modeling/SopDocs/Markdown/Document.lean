import SopDocs.Markdown.Flow
import SopDocs.Markdown.Inline
/-!
Markdown documents: first the blocks, then, when all definitions are known, the text in them.
-/

namespace SopDocs.Markdown

/-! ### What text may refer to -/

/-- The identifier of a definition, and that of a footnote. -/
def definedIdentifier? (content : Content) : Option String :=
  (Element.definition? content).map (·.identifier)

def footnoteIdentifier? (content : Content) : Option String :=
  match content with
  | .footnoteDefinition identifier => some identifier
  | _ => none

mutual
/-- The identifiers that blocks have, by a reader of their content. -/
def Block.identifiers (read : Content → Option String) : Block → List String
  | ⟨content, _, _, children⟩ => (read content).toList ++ blockIdentifiers read children

def blockIdentifiers (read : Content → Option String) : List Block → List String
  | [] => []
  | b :: r => b.identifiers read ++ blockIdentifiers read r
end

/-- The keys of the identifiers in blocks. -/
def keysOf (read : Content → Option String) (blocks : List Block) : List (List Char) :=
  (blockIdentifiers read blocks).map fun identifier => Text.upper identifier.toList

/-! ### Items of task lists -/

/-- The text after the box that an item of a task list starts with. -/
def afterTaskBox? (gs : List Glyph) : Option (List Glyph) :=
  match gs with
  | a :: b :: c :: d :: r =>
    if a.char == '[' && (b.isBlank || b.char == 'x' || b.char == 'X') && c.char == ']' &&
        (d.isEnd || (d.isSpace && !(skipSpaces r).isEmpty)) then some (d :: r)
    else none
  | _ => none

/-- The elements of a text after a box: one space or line end between them is no text. -/
def dropBoxSpace (elements : List Element) : List Element × Option Nat :=
  match elements with
  | ⟨.text value, span, children⟩ :: r =>
    let cs := value.toList
    let count := match cs with
      | '\r' :: '\n' :: _ => 2
      | c :: _ => if isLabelBlank c then 1 else 0
      | [] => 0
    if cs.length = count then (r, none)
    else
      let start := span.start + count
      (⟨.text (String.ofList (cs.drop count)), ⟨start, span.stop⟩, children⟩ :: r, some start)
  | _ => (elements, none)

/-- The first paragraph of an item. -/
def itemParagraph (scope : Scope) (block : Block) : Element :=
  match afterTaskBox? block.text with
  | some rest =>
    let (elements, start) := dropBoxSpace (inline scope false rest)
    ⟨.paragraph, ⟨start.getD block.span.start, block.span.stop⟩, elements⟩
  | none => ⟨.paragraph, block.span, inline scope true block.text⟩

/-! ### Elements of blocks -/

mutual
/-- The element of a block. -/
def Block.element (scope : Scope) : Block → Element
  | ⟨content, span, text, children⟩ =>
    ⟨content, span,
      inline { scope with inTable := content = .cell } true text ++
        blockElements scope (content = .item) children⟩

/-- The elements of blocks; `atItemStart` says that they are the first ones of an item but for
definitions. -/
def blockElements (scope : Scope) (atItemStart : Bool) : List Block → List Element
  | [] => []
  | b :: r =>
    (if atItemStart && b.content = .paragraph then itemParagraph scope b else b.element scope) ::
      blockElements scope (atItemStart && (Element.definition? b.content).isSome) r
end

/-- The syntax tree of a source. -/
def syntaxTree (source : String) : Element :=
  let cs := source.toList
  let blocks := blocksOf cs
  let scope : Scope :=
    ⟨cs, keysOf definedIdentifier? blocks, keysOf footnoteIdentifier? blocks, false⟩
  ⟨.root, ⟨0, source.utf8ByteSize⟩, blockElements scope false blocks⟩

/-- The document tree of a source. -/
def parse (source : String) : Tree.Node := (syntaxTree source).document

/-- How the format is called. -/
def formatName : String := "markdown"

/-- The file extensions of the format. -/
def extensions : List String := ["md", "markdown"]

/-- Whether a file with an extension, in any case, is in the format. -/
def hasExtension (extension : String) : Bool :=
  extensions.any (Text.eqIgnoringAsciiCase · extension)

end SopDocs.Markdown
