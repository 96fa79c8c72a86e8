import SopDocs.Config.Reader
import SopDocs.Files.Basic
/-!
Where the configuration comes from: a file that is named, else the file with the usual name in a
directory, else the standard values.
-/

namespace SopDocs.Config

/-- The usual name of a configuration file. -/
def fileName : String := ".soplint.json"

/-- The configuration in a file; its base directory is that of the file. -/
def load (files : Files) (path : Path) : Except Failure Config :=
  match files.read path with
  | .error fault => .error (.unreadableConfig path fault)
  | .ok text => (Config.read text).map fun config => { config with baseDir := path.parent? }

def discover (files : Files) (explicit : Option Path) (directory : Path) : Except Failure Config :=
  match explicit with
  | some path => load files path
  | none =>
    let usual := directory.join ⟨fileName⟩
    if files.isFile usual then load files usual else .ok .standard

end SopDocs.Config
