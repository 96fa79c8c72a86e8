import SopDocs.Conventions
import SopDocs.Files.Basic
import SopDocs.Glob
/-!
Finding documents. Input files are taken as given, input directories are searched for files with
document names; links to directories below an input are not followed. What an exclude pattern
matches is left out. The result is in ascending order of the components of the paths, each path
once.
-/

namespace SopDocs.Files

mutual
/-- The paths of everything below an entry but directories. -/
def Entry.walk (path : Path) : Entry → List Path
  | .file _ => [path]
  | .link _ => [path]
  | .dir entries => walkEntries path entries

def walkEntries (path : Path) : List (String × Entry) → List Path
  | [] => []
  | (name, e) :: r => e.walk (path.join ⟨name⟩) ++ walkEntries path r
end

/-- The files below a directory. A link counts as the file it leads to. -/
def filesBelow (files : Files) (dir : Path) : List Path :=
  match files.lookup dir with
  | .ok e => (e.walk dir).filter files.isFile
  | .error _ => []

structure Finder where
  conventions : Conventions
  exclude : List Glob
deriving Inhabited

namespace Finder

def ofConfig (config : Config) : Except Failure Finder :=
  (Glob.parseAll config.exclude).map fun globs => ⟨Conventions.ofConfig config, globs⟩

def ignores (finder : Finder) (path : Path) : Bool := finder.exclude.any (·.matchesPath path)

/-- Whether a path has the name of a document. -/
def isDocument (finder : Finder) (path : Path) : Bool :=
  match path.fileName? with
  | some name => finder.conventions.isDocumentName name
  | none => false

/-- The documents that one input stands for. -/
def ofInput (finder : Finder) (files : Files) (input : Path) : List Path :=
  if files.isFile input then [input].filter (! finder.ignores ·)
  else if files.isDir input then
    (files.filesBelow input).filter fun p => finder.isDocument p && !finder.ignores p
  else []

/-- Drops each path that equals the one before it, the first one `p`. -/
def dropRepeatedAfter (p : Path) : List Path → List Path
  | [] => []
  | q :: r => if p.same q then dropRepeatedAfter p r else q :: dropRepeatedAfter q r

/-- Drops each path that equals the one before it. -/
def dropRepeated : List Path → List Path
  | [] => []
  | p :: r => p :: dropRepeatedAfter p r

def sortPaths (paths : List Path) : List Path := paths.mergeSort fun p q => (p.compare q).isLE

def collect (finder : Finder) (files : Files) (inputs : List Path) : List Path :=
  dropRepeated (sortPaths (inputs.flatMap (finder.ofInput files)))

end Finder

end SopDocs.Files
