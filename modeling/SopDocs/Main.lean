import Std.Time.Zoned
import SopDocs.CommandLine.Run
import SopDocs.Files.Change
/-!
The program. It takes a picture of the files around the current directory and the inputs, runs on
it, prints, and writes a new index file. It has no network: no request gets an answer.
-/

namespace SopDocs.Program

/-- Directories are pictured down to this depth. -/
def maxDepth : Nat := 64

def contentOf (bytes : ByteArray) : Files.Content :=
  match String.fromUTF8? bytes with
  | some text => .text text
  | none => .binary

/-- What a directory lists. -/
def itemsOf (directory : String) : IO (Array IO.FS.DirEntry) := do
  (← IO.FS.realPath directory).readDir

/-- The entries of a directory; what cannot be read is left out. -/
def picture : Nat → String → IO (List (String × Files.Entry))
  | 0, _ => return []
  | depth + 1, directory => do
    let mut entries := []
    for item in ← itemsOf directory do
      try
        let entry ← match (← item.path.symlinkMetadata).type with
          | .dir => pure (Files.Entry.dir (← picture depth item.path.toString))
          | .symlink => pure (Files.Entry.link (← IO.FS.realPath item.path).toString)
          | _ => pure (Files.Entry.file (contentOf (← IO.FS.readBinFile item.path)))
        entries := (item.fileName, entry) :: entries
      catch _ => pure ()
    return entries.reverse

/-- The location of an absolute path. -/
def locationOf (path : String) : Files.Location :=
  ((Text.pieces (· == '/') path.toList).filter (· != [])).map String.ofList

def directoryText (location : Files.Location) : String := (Files.pathOf location).text

/-- Whether a directory can be read and holds the usual marker of a root. -/
def isRoot (location : Files.Location) : IO Bool := do
  try
    let items ← itemsOf (directoryText location)
    return items.any (·.fileName == Config.standard.rootMarker)
  catch _ => return false

/-- The directory to be pictured for a path: the nearest root at or above it, else the directory
itself or the one of the file. -/
def surroundings (location : Files.Location) : IO Files.Location := do
  for candidate in location :: Files.above location do
    if ← isRoot candidate then return candidate
  try
    let _ ← itemsOf (directoryText location)
    return location
  catch _ => return location.dropLast

/-- A picture of the files around the current directory and around words that are paths. -/
def filesAround (words : List String) : IO Files := do
  let current := locationOf (← IO.currentDir).toString
  let mut files : Files := ⟨.dir [], current⟩
  let mut done : List Files.Location := []
  for word in "." :: words do
    try
      let place ← surroundings (locationOf (← IO.FS.realPath word).toString)
      if !done.contains place then
        files := files.set place (.dir (← picture maxDepth (directoryText place)))
        done := place :: done
    catch _ => pure ()
  return files

def today : IO Date := do
  let day ← Std.Time.PlainDate.now
  return ⟨day.year.toInt.toNat, day.month.toInt.toNat, day.day.toInt.toNat⟩

/-- The file that a command line asks to be written. -/
def outputOf? (words : List String) : Option Path :=
  match CommandLine.Invocation.ofWords words with
  | .ok ⟨_, _, .index command⟩ => command.output
  | _ => none

/-- Writes the new file of a run to the disk. -/
def save (words : List String) (ending : CommandLine.Ending) : IO Unit := do
  if let some path := outputOf? words then
    if ending.exitCode = 0 then
      if let .ok text := ending.files.read path then
        (← IO.FS.Handle.mk path.text .writeNew).putStr text

end SopDocs.Program

open SopDocs in
def main (words : List String) : IO UInt32 := do
  let world : CommandLine.World := {
    files := ← Program.filesAround words
    transport := fun _ => none
    today := ← Program.today
    token := ← IO.getEnv CommandLine.tokenVariable }
  let ending := (CommandLine.run world words).result
  Program.save words ending
  IO.print ending.output
  if let some complaint := ending.complaint then IO.eprint complaint
  return ending.exitCode.toUInt32
