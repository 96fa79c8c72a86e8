import SopDocs.Tree.Node
/-!
Syntax trees of Markdown, where references and definitions are still nodes of their own, and the
document tree of one: a reference takes the target of the first definition of its identifier in
document order.
-/

namespace SopDocs.Markdown

open SopDocs.Tree (Span Node Kind Data)

inductive Content where
  | root
  | paragraph
  | heading (depth : Nat)
  | text (value : String)
  | emphasis
  | strong
  | delete
  | code (value : String)
  | codeBlock (language : Option String) (value : String)
  | link (url : String) (title : Option String)
  | image (url : String) (title : Option String)
  | linkReference (identifier : String)
  | imageReference (identifier : String)
  | definition (identifier url : String) (title : Option String)
  | footnoteDefinition (identifier : String)
  | footnoteReference
  | list (ordered : Bool)
  | item
  | quote
  | thematicBreak
  | break
  | html (value : String)
  | table
  | row
  | cell
  /-- A construct of an extension, such as a formula or an embedded component. -/
  | other
deriving DecidableEq, Inhabited

structure Element where
  content : Content
  span : Span
  children : List Element
deriving Inhabited

/-- A definition: its identifier and the target it gives to references. -/
structure Definition where
  identifier : String
  url : String
  title : Option String
deriving DecidableEq, Inhabited

namespace Element

/-- The definition that an element is. -/
def definition? (content : Content) : Option Definition :=
  match content with
  | .definition identifier url title => some ⟨identifier, url, title⟩
  | _ => none

mutual
/-- All definitions in an element, each before those below it. -/
def definitions : Element → List Definition
  | ⟨content, _, children⟩ => (definition? content).toList ++ definitionsOf children

def definitionsOf : List Element → List Definition
  | [] => []
  | e :: r => e.definitions ++ definitionsOf r
end

/-- What the document tree keeps of an element: its kind, value and data, and whether its
children. -/
structure Shape where
  kind : Kind
  value : Option String
  data : Data
  keepsChildren : Bool

/-- A construct whose meaning is in its children. -/
def Shape.parent (kind : Kind) (data : Data) : Shape := ⟨kind, none, data, true⟩

/-- A construct without children. -/
def Shape.leaf (kind : Kind) (value : Option String) (data : Data) : Shape :=
  ⟨kind, value, data, false⟩

/-- The first definition of an identifier. -/
def target? (definitions : List Definition) (identifier : String) : Option Definition :=
  definitions.find? (·.identifier == identifier)

/-- Definitions, footnotes and the constructs of extensions leave an empty leaf. -/
def shapeOf (definitions : List Definition) : Content → Shape
  | .root => .parent .document .none
  | .paragraph => .parent .paragraph .none
  | .heading depth => .parent .header (.header depth)
  | .text value => .leaf .str (some value) .none
  | .emphasis => .parent .emphasis .none
  | .strong => .parent .strong .none
  | .delete => .parent .delete .none
  | .code value => .leaf .code (some value) .none
  | .codeBlock language value => .leaf .codeBlock (some value) (.codeBlock language)
  | .link url title => .parent .link (.link url title)
  | .image url title => .leaf .image none (.link url title)
  | .linkReference identifier =>
    match target? definitions identifier with
    | some d => .parent .link (.link d.url d.title)
    | none => .parent .linkReference .none
  | .imageReference identifier =>
    match target? definitions identifier with
    | some d => .leaf .image none (.link d.url d.title)
    | none => .leaf .imageReference none .none
  | .list ordered => .parent .list (.list ordered)
  | .item => .parent .listItem .none
  | .quote => .parent .blockQuote .none
  | .thematicBreak => .leaf .horizontalRule none .none
  | .break => .leaf .break none .none
  | .html value => .leaf .html (some value) .none
  | .table => .parent .table .none
  | .row => .parent .tableRow .none
  | .cell => .parent .tableCell .none
  | .definition _ _ _ | .footnoteDefinition _ | .footnoteReference | .other =>
    .leaf .html none .none

mutual
/-- The node of an element, given the definitions of the document. -/
def node (definitions : List Definition) : Element → Node
  | ⟨content, span, children⟩ =>
    let shape := shapeOf definitions content
    ⟨shape.kind, span, shape.value, shape.data,
      if shape.keepsChildren then nodes definitions children else []⟩

def nodes (definitions : List Definition) : List Element → List Node
  | [] => []
  | e :: r => e.node definitions :: nodes definitions r
end

/-- The document tree of a syntax tree. -/
def document (root : Element) : Node := root.node root.definitions

end Element

end SopDocs.Markdown
