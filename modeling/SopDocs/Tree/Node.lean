/-!
Document trees: nodes of a fixed set of kinds with ordered children, a byte span, an optional
literal text and data that depends on the construct. The rules read a document through the functions
below only.
-/

namespace SopDocs

namespace Tree

inductive Kind where
  | document
  | paragraph
  | header
  | blockQuote
  | list
  | listItem
  | codeBlock
  | horizontalRule
  | html
  | str
  | break
  | emphasis
  | strong
  | delete
  | code
  | link
  | image
  | linkReference
  | imageReference
  | table
  | tableRow
  | tableCell
deriving DecidableEq, Inhabited

/-- Byte offsets of a construct, the end excluded. -/
structure Span where
  start : Nat
  stop : Nat
deriving DecidableEq, Inhabited

/-- Data of single constructs. A node of any kind may carry any of it. -/
inductive Data where
  | none
  | header (depth : Nat)
  | list (ordered : Bool)
  | codeBlock (language : Option String)
  | link (url : String) (title : Option String)
deriving DecidableEq, Inhabited

structure Node where
  kind : Kind
  span : Span
  value : Option String
  data : Data
  children : List Node
deriving Inhabited

namespace Node

/-- The level of a heading; only a header node that carries one has it. -/
def headingDepth (node : Node) : Option Nat :=
  match node.kind, node.data with
  | .header, .header depth => some depth
  | _, _ => none

/-- The target of a link or an image. -/
def target (node : Node) : Option String :=
  match node.data with
  | .link url _ => some url
  | _ => none

mutual
/-- Text of a node and its descendants: code counts, HTML does not, a break is a space. -/
def plainText : Node → String
  | ⟨kind, _, value, _, children⟩ =>
    match kind with
    | .str | .code | .codeBlock => value.getD ""
    | .break => " "
    | .html => ""
    | _ => plainTexts children

def plainTexts : List Node → String
  | [] => ""
  | n :: r => n.plainText ++ plainTexts r
end

mutual
/-- All nodes below a node, each before its own descendants. -/
def descendants : Node → List Node
  | ⟨_, _, _, _, children⟩ => withDescendants children

def withDescendants : List Node → List Node
  | [] => []
  | n :: r => n :: (n.descendants ++ withDescendants r)
end

/-- The descendants of one kind, in document order. -/
def findAll (kind : Kind) (node : Node) : List Node :=
  node.descendants.filter (·.kind == kind)

end Node

end Tree

end SopDocs
