import SopDocs.Files.Change
import SopDocs.Index.Table
import SopDocs.Markdown.Document
/-!
The index of documents on disk, an index that is on disk already, and writing one to a new file.
-/

namespace SopDocs.Index

/-- The entry of a document on disk. -/
def readEntry (files : Files) (path : Path) : Except Failure Entry :=
  match files.read path with
  | .error fault => .error (.unreadable path fault)
  | .ok source => entryFor path (Markdown.parse source)

/-- The entries of documents in ascending order of their identifiers. There is no index of nothing,
and the first document without an entry is the failure. -/
def build (files : Files) (paths : List Path) : Except Failure (List Entry) :=
  if paths.isEmpty then .error .noDocuments
  else (paths.mapM (readEntry files)).map sortEntries

/-- The first table of a markdown text. -/
def Table.parse (content : String) : Except IndexTableFault Table :=
  Table.ofTree content (Markdown.parse content)

/-- The index table that a file holds. -/
def Table.read (files : Files) (path : Path) : Except Failure Table :=
  match files.read path with
  | .error fault => .error (.unreadableIndex path fault)
  | .ok content =>
    if (Text.trimmed content).isEmpty then .error (.emptyIndexFile path)
    else
      match Table.parse content with
      | .ok table => .ok table
      | .error fault => .error (.unusableIndexFile path fault)

/-- Writes an index to a file that must not exist yet. -/
def write (files : Files) (path : Path) (content : String) : Except Failure Files :=
  match files.writeNew path content with
  | .ok files => .ok files
  | .error .alreadyExists => .error (.outputExists path)
  | .error fault => .error (.notCreated path fault)

end SopDocs.Index
