import SopDocs.Lint.Context
/-!
The rule about file names: identifier and title, the title in lower case, the identifier used once.
-/

namespace SopDocs.Lint

/-- The number of paths that carry an identifier. -/
def identifierUses (c : Conventions) (inputs : List Path) (identifier : String) : Nat :=
  inputs.countP fun p => c.fileIdentifier? p == some identifier

def fileName (ctx : Context) : List Problem :=
  let name := ctx.path.fileName?.getD ""
  match ctx.conventions.splitFileName? ctx.path with
  | none => [.fileName name]
  | some (identifier, title) =>
    let uses := identifierUses ctx.conventions ctx.inputs identifier
    (if title = Text.lowered title then [] else [.fileTitleCase name]) ++
      (if 1 < uses then [.duplicateIdentifier identifier uses] else [])

end SopDocs.Lint
