import SopDocs.Failure
import SopDocs.Text.Utf8
/-!
A state of the file system: a tree of directories, files and symbolic links, and a current
directory. A path is looked up name by name from the current directory or the root; links are
followed, up to a limit.
-/

namespace SopDocs

namespace Files

/-- What a file holds. -/
inductive Content where
  | text (s : String)
  | binary
deriving DecidableEq, Inhabited

inductive Entry where
  | file (content : Content)
  | dir (entries : List (String × Entry))
  | link (target : String)
deriving Inhabited

/-- The names on the way from the root to an entry. -/
abbrev Location := List String

/-- The entry with a name in a directory. -/
def named? (name : String) (entries : List (String × Entry)) : Option Entry :=
  (entries.find? (·.1 == name)).map (·.2)

/-- The entry at a location below an entry; links are not followed. -/
def Entry.below? : Location → Entry → Option Entry
  | [], e => some e
  | name :: r, .dir entries => (named? name entries).bind (below? r)
  | _ :: _, _ => none

/-- Greatest number of bytes of a name. -/
def maxName : Nat := 255

/-- Greatest number of bytes of a path. -/
def maxPath : Nat := 4095

/-- Greatest number of links that are followed on one way. -/
def maxLinks : Nat := 40

end Files

structure Files where
  top : Files.Entry
  current : Files.Location
deriving Inhabited

namespace Files

def entryAt? (files : Files) (l : Location) : Option Entry := files.top.below? l

/-- Where a path starts. -/
def start (files : Files) (path : List Char) : Location :=
  if path.head? = some '/' then [] else files.current

def pathPieces (path : List Char) : List (List Char) := Text.pieces (· == '/') path

/-- Goes through the pieces of a path from a directory; `again` goes on after a link. A link that is
the last piece is only followed if `followLast` holds. -/
def walkPieces (files : Files) (followLast : Bool)
    (again : Location → List (List Char) → Except FileFault Location) :
    Location → List (List Char) → Except FileFault Location
  | here, [] => .ok here
  | here, piece :: r =>
    match files.entryAt? here with
    | none => .error .notFound
    | some (.dir entries) =>
      if piece = [] ∨ piece = ['.'] then walkPieces files followLast again here r
      else if piece = ['.', '.'] then walkPieces files followLast again here.dropLast r
      else if maxName < (Text.utf8 piece).length then .error .nameTooLong
      else
        let name := String.ofList piece
        match named? name entries with
        | none => .error .notFound
        | some (.link target) =>
          if r = [] ∧ !followLast then .ok (here ++ [name])
          else
            let target := target.toList
            again (if target.head? = some '/' then [] else here) (pathPieces target ++ r)
        | some _ => walkPieces files followLast again (here ++ [name]) r
    | some _ => .error .notDirectory

/-- Goes through pieces with at most `links` links less one on the way. -/
def walk (files : Files) (followLast : Bool) :
    Nat → Location → List (List Char) → Except FileFault Location
  | 0 => fun _ _ => .error .tooManyLinks
  | links + 1 => walkPieces files followLast (walk files followLast links)

/-- The location that a path names. -/
def locate (files : Files) (followLast : Bool) (path : Path) : Except FileFault Location :=
  let s := path.text.toList
  if s.contains '\x00' then .error .nulInPath
  else if s = [] then .error .notFound
  else if maxPath < (Text.utf8 s).length then .error .nameTooLong
  else walk files followLast (maxLinks + 1) (files.start s) (pathPieces s)

/-- The entry that a path names, links followed. -/
def lookup (files : Files) (path : Path) : Except FileFault Entry := do
  let l ← files.locate true path
  match files.entryAt? l with
  | some e => .ok e
  | none => .error .notFound

/-- Whether a path names a file or a directory. -/
def found (files : Files) (path : Path) : Bool := (files.lookup path).isOk

def isFile (files : Files) (path : Path) : Bool :=
  match files.lookup path with
  | .ok (.file _) => true
  | _ => false

def isDir (files : Files) (path : Path) : Bool :=
  match files.lookup path with
  | .ok (.dir _) => true
  | _ => false

/-- The text of a file. -/
def read (files : Files) (path : Path) : Except FileFault String := do
  match ← files.lookup path with
  | .file (.text s) => .ok s
  | .file .binary => .error .notText
  | _ => .error .isDirectory

/-- The path of a location. -/
def pathOf (l : Location) : Path := ⟨"/" ++ "/".intercalate l⟩

/-- The locations above a location, the nearest first. -/
def above (l : Location) : List Location :=
  match l with
  | [] => []
  | l => ((List.range l.length).reverse).map l.take

end Files

end SopDocs
