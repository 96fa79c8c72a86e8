import SopDocs.Files.Basic
/-!
Changes of the file system: entries are set and removed by location, files are written by path.
-/

namespace SopDocs.Files

/-- Sets the entry with a name. -/
def setNamed (name : String) (e : Entry) : List (String × Entry) → List (String × Entry)
  | [] => [(name, e)]
  | (n, f) :: r => if n = name then (name, e) :: r else (n, f) :: setNamed name e r

/-- Sets the entry at a location; directories on the way are made. -/
def Entry.set (e : Entry) : Location → Entry → Entry
  | [], _ => e
  | name :: r, .dir entries =>
    .dir (setNamed name (set e r ((named? name entries).getD (.dir []))) entries)
  | name :: r, _ => .dir [(name, set e r (.dir []))]

/-- Removes the entry at a location. -/
def Entry.remove : Location → Entry → Entry
  | [name], .dir entries => .dir (entries.filter (·.1 != name))
  | name :: r, .dir entries =>
    match named? name entries with
    | none => .dir entries
    | some e => .dir (setNamed name (remove r e) entries)
  | _, e => e

def set (files : Files) (l : Location) (e : Entry) : Files :=
  { files with top := e.set l files.top }

/-- Cuts a path into the one of its directory and its last name; trailing slashes do not count. -/
def splitLast (path : List Char) : List Char × List Char :=
  let s := (path.reverse.dropWhile (· == '/')).reverse
  let name := (s.reverse.takeWhile (· != '/')).reverse
  (s.take (s.length - name.length), name)

/-- The location of a path whose last name need not exist. -/
def locateNew (files : Files) (path : List Char) : Except FileFault (Location × String) :=
  let (directory, name) := splitLast path
  let place := if directory = [] then "." else String.ofList directory
  match files.locate true ⟨place⟩ with
  | .error fault => .error fault
  | .ok l =>
    match files.entryAt? l with
    | some (.dir _) => .ok (l, String.ofList name)
    | some _ => .error .notDirectory
    | none => .error .notFound

/-- Writes a file that must not exist yet. -/
def writeNew (files : Files) (path : Path) (content : String) : Except FileFault Files :=
  let s := path.text.toList
  if s.contains '\x00' then .error .nulInPath
  else if s = [] then .error .notFound
  else if maxPath < (Text.utf8 s).length then .error .nameTooLong
  else if s.all (· == '/') then .error .alreadyExists
  else
    match files.locateNew s with
    | .error fault => .error fault
    | .ok (l, name) =>
      if name = "." ∨ name = ".." then .error .alreadyExists
      else if s.getLast? = some '/' then .error .isDirectory
      else if maxName < (Text.utf8 name.toList).length then .error .nameTooLong
      else
        match files.entryAt? (l ++ [name]) with
        | some _ => .error .alreadyExists
        | none => .ok (files.set (l ++ [name]) (.file (.text content)))

end SopDocs.Files
