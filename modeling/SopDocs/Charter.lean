import SopDocs.Config
import SopDocs.Files.Basic
import SopDocs.Glossary
import SopDocs.Markdown.Document
/-!
The charter: the document whose glossary all documents of a repository share. The repository of a
document is the nearest directory above it that contains the root marker. Each charter is read once:
what later documents see is the glossary of the first read, whatever became of the file.
-/

namespace SopDocs

/-- The glossaries of the charters read so far, by the paths of the charters. -/
structure Charters where
  rootMarker : String
  charterPath : String
  known : List (String × Glossary)
deriving Inhabited

namespace Charters

def ofConfig (config : Config) : Charters := ⟨config.rootMarker, config.charterPath, []⟩

/-- Whether a directory contains the root marker. -/
def marks (charters : Charters) (files : Files) (directory : Files.Location) : Bool :=
  files.found ((Files.pathOf directory).join ⟨charters.rootMarker⟩)

/-- The root of the repository of a document. -/
def root (charters : Charters) (files : Files) (document : Path) : Except Failure Path :=
  match files.locate true document with
  | .error fault => .error (.unresolvable document fault)
  | .ok place =>
    match (Files.above place).find? (charters.marks files) with
    | some directory => .ok (Files.pathOf directory)
    | none => .error (.noRoot charters.rootMarker document)

/-- The path of the charter of a document. -/
def path (charters : Charters) (files : Files) (document : Path) : Except Failure Path :=
  (charters.root files document).map fun root => root.join ⟨charters.charterPath⟩

/-- Reads a charter from its file. -/
def read (files : Files) (charter : Path) : Except Failure Glossary :=
  match files.read charter with
  | .error fault => .error (.unreadableCharter charter fault)
  | .ok text => .ok (Glossary.ofTree (Markdown.parse text))

def known? (charters : Charters) (charter : Path) : Option Glossary :=
  (charters.known.find? (·.1 == charter.text)).map (·.2)

def add (charters : Charters) (charter : Path) (glossary : Glossary) : Charters :=
  { charters with known := charters.known ++ [(charter.text, glossary)] }

/-- The shared glossary of a document, and the charters known from then on. A failure leaves them as
they are. -/
def glossaryFor (charters : Charters) (files : Files) (document : Path) :
    Except Failure Glossary × Charters :=
  match charters.path files document with
  | .error failure => (.error failure, charters)
  | .ok charter =>
    match charters.known? charter with
    | some glossary => (.ok glossary, charters)
    | none =>
      match read files charter with
      | .error failure => (.error failure, charters)
      | .ok glossary => (.ok glossary, charters.add charter glossary)

end Charters

end SopDocs
