import SopDocs.Path
import SopDocs.Text.Case
import SopDocs.Web.Url
/-!
References of a document. A target that starts with `./` or `../` is a file next to the document; a
web URL is remote if its host is a designated host or a subdomain of one.
-/

namespace SopDocs

namespace Reference

inductive Target where
  | relative (path : String)
  | remote (url : String)
  | other
deriving DecidableEq, Inhabited

/-- Whether a host is the designated one or ends with a dot and the designated one. -/
def isDesignatedBy (host designated : String) : Bool :=
  Text.eqIgnoringAsciiCase host designated ||
    (('.' :: designated.toList).map Char.toLower).isSuffixOf (host.toList.map Char.toLower)

def isDesignated (hosts : List String) (host : String) : Bool := hosts.any (isDesignatedBy host)

def isRelative (url : String) : Bool := Text.startsWith url "./" || Text.startsWith url "../"

/-- The part of a relative target that names a file. -/
def filePart (url : String) : String :=
  String.ofList (url.toList.takeWhile fun c => c != '#' && c != '?')

def classify (hosts : List String) (url : String) : Target :=
  if isRelative url then .relative (filePart url)
  else match Web.Url.parse url with
    | .ok u => if isDesignated hosts (String.ofList u.host) then .remote url else .other
    | .error _ => .other

/-- The path that a relative target means in a document. -/
def resolve (document : Path) (target : String) : Path :=
  (document.parent?.getD ⟨""⟩).join ⟨target⟩

/-- What is known about a remote target. -/
inductive Outcome where
  | reachable
  | notFound
  | unresolvable (cause : String)
deriving DecidableEq, Inhabited

/-- Looks a remote target up. -/
abbrev Probe := String → Outcome

end Reference

end SopDocs
