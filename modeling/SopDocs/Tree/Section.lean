import SopDocs.Text.Search
import SopDocs.Tree.Node
/-!
Sections. The section of a heading holds the siblings after it, up to the next sibling heading of
the same or a higher level.
-/

namespace SopDocs.Tree

/-- Whether a sibling ends the section of a heading of level `depth`. -/
def endsSection (depth : Nat) (sibling : Node) : Bool :=
  match sibling.headingDepth with
  | some d => d ≤ depth
  | none => false

/-- Index range of the section of the sibling at `index`; empty unless that is a heading. -/
def sectionRange (siblings : List Node) (index : Nat) : Nat × Nat :=
  match siblings[index]?.bind Node.headingDepth with
  | none => (index + 1, index + 1)
  | some depth =>
    (index + 1,
      index + 1 + ((siblings.drop (index + 1)).takeWhile (! endsSection depth ·)).length)

/-- Finds a section heading by its level and a text that it contains. -/
structure Locator where
  depth : Nat
  text : String
deriving DecidableEq, Inhabited

def Locator.matches (locator : Locator) (node : Node) : Bool :=
  node.headingDepth == some locator.depth && Text.contains node.plainText locator.text

mutual
/-- The section of the first matching heading below a node, in document order. -/
def Node.section? (locator : Locator) : Node → Option (List Node)
  | ⟨_, _, _, _, children⟩ => sectionAmong? locator children

/-- The section of the first matching heading among siblings and their descendants. -/
def sectionAmong? (locator : Locator) : List Node → Option (List Node)
  | [] => none
  | n :: r =>
    if locator.matches n then some (r.takeWhile (! endsSection locator.depth ·))
    else match n.section? locator with
      | some found => some found
      | none => sectionAmong? locator r
end

/-- A section that documents must have, with the label used in findings. -/
structure RequiredSection where
  label : String
  locator : Locator
deriving DecidableEq, Inhabited

/-- The procedure section. -/
def procedure : Locator := ⟨3, "Procedure"⟩

/-- The sections that every document has, in the order in which they are reported. -/
def requiredSections : List RequiredSection := [
  ⟨"## Index", ⟨2, "Index"⟩⟩,
  ⟨"### Document History", ⟨3, "Document History"⟩⟩,
  ⟨"### Glossary", ⟨3, "Glossary"⟩⟩,
  ⟨"### Roles and Responsibilities", ⟨3, "Roles and Responsibilities"⟩⟩,
  ⟨"### Purpose", ⟨3, "Purpose"⟩⟩,
  ⟨"### Scope", ⟨3, "Scope"⟩⟩,
  ⟨"### Procedure", procedure⟩,
  ⟨"### References", ⟨3, "References"⟩⟩]

/-- The first heading of level 1. -/
def Node.title? (root : Node) : Option Node :=
  (root.findAll .header).find? (·.headingDepth == some 1)

end SopDocs.Tree
