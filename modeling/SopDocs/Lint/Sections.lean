import SopDocs.Lint.Context
/-!
Rules about the required sections: each is there, and none that is there is blank.
-/

namespace SopDocs.Lint

def requiredSections (ctx : Context) : List Problem :=
  (ctx.conventions.requiredSections.filter fun s => (ctx.root.section? s.locator).isNone).map
    fun s => .missingSection s.label

/-- Whether a node has no text but white space. -/
def isBlankNode (node : Tree.Node) : Bool := Text.trim node.plainText.toList == []

def isBlankSection (root : Tree.Node) (s : Tree.RequiredSection) : Bool :=
  match root.section? s.locator with
  | none => false
  | some nodes => nodes.all isBlankNode

def nonEmptySections (ctx : Context) : List Problem :=
  (ctx.conventions.requiredSections.filter (isBlankSection ctx.root)).map
    fun s => .emptySection s.label

end SopDocs.Lint
