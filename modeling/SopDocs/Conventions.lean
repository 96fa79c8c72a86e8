import SopDocs.Config
import SopDocs.Text.Word
import SopDocs.Tree.Section
/-!
Naming conventions. A document's identifier is a fixed start followed by four decimal digits; a file
is named by its identifier, an underscore and a title.
-/

namespace SopDocs

structure Conventions where
  titlePrefix : String
  imagesDir : String
  remoteHosts : List String
  identifierPrefix : String
  requiredSections : List Tree.RequiredSection
deriving Inhabited

namespace Conventions

def ofConfig (config : Config) : Conventions where
  titlePrefix := config.titlePrefix
  imagesDir := config.imagesDir
  remoteHosts := config.remoteHosts
  identifierPrefix := config.identifierPrefix
  requiredSections := Tree.requiredSections

/-- Characters with a meaning of their own in a pattern. -/
def patternMarks : List Char := "\\.+*?()|[]\x7b\x7d^$#&-~".toList

/-- A pattern that matches exactly the given text. -/
def literalPattern (s : String) : String :=
  String.ofList (s.toList.flatMap fun c => if patternMarks.contains c then ['\\', c] else [c])

/-- The pattern of identifiers, as it is shown in messages. -/
def identifierPattern (c : Conventions) : String :=
  "^" ++ literalPattern c.identifierPrefix ++ "\\d\x7b4\x7d"

/-- The pattern of file stems, as it is shown on request. -/
def fileStemPattern (c : Conventions) : String :=
  "^(" ++ literalPattern c.identifierPrefix ++ "\\d\x7b4\x7d)_(.+)$"

/-- Cuts an identifier off the start of a text. -/
def splitIdentifier? (c : Conventions) (s : List Char) : Option (List Char × List Char) :=
  match Text.dropStart? c.identifierPrefix.toList s with
  | some (d₁ :: d₂ :: d₃ :: d₄ :: r) =>
    if [d₁, d₂, d₃, d₄].all Text.isDecimalDigit then
      some (c.identifierPrefix.toList ++ [d₁, d₂, d₃, d₄], r)
    else none
  | _ => none

/-- Whether a text starts with an identifier. -/
def startsWithIdentifier (c : Conventions) (s : String) : Bool :=
  (c.splitIdentifier? s.toList).isSome

/-- Identifier and title of a file stem. A title is not empty and has no line feed. -/
def splitStem? (c : Conventions) (stem : List Char) : Option (List Char × List Char) :=
  match c.splitIdentifier? stem with
  | some (identifier, '_' :: title) =>
    if title ≠ [] ∧ title.all (· != '\n') then some (identifier, title) else none
  | _ => none

/-- Identifier and title of a file. -/
def splitFileName? (c : Conventions) (p : Path) : Option (String × String) :=
  p.fileStem?.bind fun stem =>
    (c.splitStem? stem.toList).map fun (i, t) => (String.ofList i, String.ofList t)

def fileIdentifier? (c : Conventions) (p : Path) : Option String :=
  (c.splitFileName? p).map (·.1)

/-- What follows the identifier in the name of a document file. -/
def isDocumentTail (r : List Char) : Bool :=
  let body := r.take (r.length - 3)
  r.drop (r.length - 3) == ".md".toList && body.all (· != '\n')

/-- Whether a file name is that of a document: an identifier, anything on one line, and `.md`. -/
def isDocumentName (c : Conventions) (name : String) : Bool :=
  match c.splitIdentifier? name.toList with
  | some (_, r) => isDocumentTail r
  | none => false

end Conventions

end SopDocs
