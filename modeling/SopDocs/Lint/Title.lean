import SopDocs.Lint.Context
/-!
Rules about the title: it starts as the conventions say, and it is the title of the file name with
hyphens read as blanks.
-/

namespace SopDocs.Lint

def titleFormat (ctx : Context) : List Problem :=
  let start := ctx.conventions.titlePrefix
  match ctx.title? with
  | none => [.noTitle start]
  | some title => if Text.startsWith title start then [] else [.titleStart start title]

/-- The title that a document of a file name must have. -/
def expectedTitle (c : Conventions) (fileTitle : String) : String :=
  let blanks := fileTitle.toList.map fun ch => if ch = '-' then ' ' else ch
  c.titlePrefix ++ String.ofList (Text.capitalize blanks)

/-- Titles are compared up to case. A malformed file name is left to the rule on file names. -/
def titleMatchesFileName (ctx : Context) : List Problem :=
  match ctx.conventions.splitFileName? ctx.path with
  | none => []
  | some (_, fileTitle) =>
    let expected := expectedTitle ctx.conventions fileTitle
    match ctx.title? with
    | none => [.noTitleToCompare expected]
    | some title =>
      if Text.lowered title = Text.lowered expected then [] else [.titleMismatch title expected]

end SopDocs.Lint
