import SopDocs.Conventions
import SopDocs.Glossary
import SopDocs.Reference
import SopDocs.Lint.Problem
/-!
What a rule may look at: one document, the conventions, the other documents of the run and the world
outside, which is two functions.
-/

namespace SopDocs.Lint

structure Context where
  path : Path
  root : Tree.Node
  conventions : Conventions
  /-- Every path of the run. -/
  inputs : List Path
  /-- The glossary that the documents share. -/
  charter : Glossary
  /-- Whether a path names an existing file or directory. -/
  found : Path → Bool
  /-- Without one, remote targets are left alone. -/
  probe : Option Reference.Probe

namespace Context

/-- The glossary of the document itself. -/
def glossary (ctx : Context) : Glossary := Glossary.ofTree ctx.root

/-- The trimmed text of the first level-1 heading. -/
def title? (ctx : Context) : Option String :=
  ctx.root.title?.map fun heading => Text.trimmed heading.plainText

end Context

end SopDocs.Lint
