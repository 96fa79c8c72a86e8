import SopDocs.Text.Search
import SopDocs.Web.Domain
import SopDocs.Web.Percent
/-!
URLs of the web. Spaces around a URL, and tabs and line ends in it, do not count; a backslash is
read as a slash, and the number of slashes after the scheme does not matter. URLs of other schemes
are told apart but not taken to pieces.
-/

namespace SopDocs.Web

inductive Scheme where
  | http
  | https
deriving DecidableEq, Inhabited

def Scheme.name : Scheme → String
  | http => "http"
  | https => "https"

def Scheme.defaultPort : Scheme → Nat
  | http => 80
  | https => 443

structure Url where
  scheme : Scheme
  userInfo : List Char
  host : List Char
  port : Option Nat
  path : List Char
  query : Option (List Char)
  fragment : Option (List Char)
deriving DecidableEq, Inhabited

/-- What a text can be besides a URL of the web. -/
inductive UrlFault where
  | noScheme
  | otherScheme
  | host (fault : HostFault)
  | invalidPort
deriving DecidableEq, Inhabited

def UrlFault.message : UrlFault → String
  | noScheme => "relative URL without a base"
  | otherScheme => "unsupported scheme"
  | host fault => fault.message
  | invalidPort => "invalid port number"

/-- Controls and spaces around a URL are dropped. -/
def isEdge (c : Char) : Bool := c.toNat ≤ 0x20

/-- Tabs and line ends within a URL are dropped. -/
def isIgnored (c : Char) : Bool := c == '\t' || c == '\n' || c == '\r'

def isSlash (c : Char) : Bool := c == '/' || c == '\\'

/-- Characters that end the part with user and host. -/
def endsAuthority (c : Char) : Bool := isSlash c || c == '?' || c == '#'

/-- The characters of a URL that count. -/
def significant (raw : List Char) : List Char :=
  (((raw.dropWhile isEdge).reverse.dropWhile isEdge).reverse).filter (! isIgnored ·)

/-- Cuts a scheme off: a letter, then letters, digits and three marks, then a colon. -/
def splitScheme? (s : List Char) : Option (List Char × List Char) :=
  match s with
  | [] => none
  | c :: _ =>
    let name := s.takeWhile fun c => c.isAlphanum || c == '+' || c == '-' || c == '.'
    match s.drop name.length with
    | ':' :: r => if c.isAlpha then some (name.map Char.toLower, r) else none
    | _ => none

/-- Cuts a text before the last character that `p` accepts. -/
def cutLast? (p : Char → Bool) (s : List Char) : Option (List Char × List Char) :=
  match s.reverse.dropWhile (! p ·) with
  | [] => none
  | _ :: front => some (front.reverse, s.drop (front.length + 1))

/-- User name and password, encoded; an empty password leaves no colon. -/
def userInfoText (s : List Char) : List Char :=
  let user := s.takeWhile (· != ':')
  let password := (s.drop user.length).drop 1
  encode userSpecial user ++ (if password = [] then [] else ':' :: encode userSpecial password)

/-- Cuts host and port; a colon inside brackets belongs to the host. -/
def splitHost (inBrackets : Bool) : List Char → List Char × List Char
  | [] => ([], [])
  | c :: r =>
    if c == ':' && !inBrackets then ([], c :: r)
    else
      let (h, p) := splitHost (if c == '[' then true else if c == ']' then false else inBrackets) r
      (c :: h, p)

/-- The port after a host; none is given by a colon alone. -/
def port? (s : List Char) : Option (Option Nat) :=
  match s with
  | [] => some none
  | _ :: ds =>
    if !ds.all Char.isDigit then none
    else if ds = [] then some none
    else if Text.digitsValue ds ≤ 65535 then some (some (Text.digitsValue ds)) else none

/-- A path segment with encoded dots read as dots. -/
def plainDots (segment : List Char) : List Char :=
  match segment with
  | '%' :: '2' :: 'e' :: r => '.' :: plainDots r
  | '%' :: '2' :: 'E' :: r => '.' :: plainDots r
  | c :: r => c :: plainDots r
  | [] => []

/-- Adds segments to a path given in reverse; single dots are skipped and double dots go back. -/
def addSegments (done : List (List Char)) : List (List Char) → List (List Char)
  | [] => done.reverse
  | [last] =>
    if plainDots last == ['.', '.'] then ([] :: done.drop 1).reverse
    else if plainDots last == ['.'] then ([] :: done).reverse
    else (last :: done).reverse
  | segment :: r =>
    if plainDots segment == ['.', '.'] then addSegments (done.drop 1) r
    else if plainDots segment == ['.'] then addSegments done r
    else addSegments (segment :: done) r

/-- The path made of a directory and the segments of a text. -/
def pathText (directory : List (List Char)) (s : List Char) : List Char :=
  let segments := (Text.pieces isSlash s).map (encode pathSpecial)
  (addSegments directory.reverse segments).flatMap ('/' :: ·)

/-- Path, query and fragment of what follows an authority. -/
def splitTail (s : List Char) : List Char × Option (List Char) × Option (List Char) :=
  let path := s.takeWhile fun c => c != '?' && c != '#'
  match s.drop path.length with
  | '?' :: r =>
    let query := r.takeWhile (· != '#')
    match r.drop query.length with
    | _ :: f => (path, some (encode querySpecial query), some (encode fragmentSpecial f))
    | [] => (path, some (encode querySpecial query), none)
  | _ :: f => (path, none, some (encode fragmentSpecial f))
  | [] => (path, none, none)

/-- Reads what follows the slashes of a web URL. -/
def readAuthority (scheme : Scheme) (s : List Char) : Except UrlFault Url := do
  let authority := s.takeWhile (! endsAuthority ·)
  let rest := s.drop authority.length
  let (user, hostPort) := match cutLast? (· == '@') authority with
    | some (u, h) => (userInfoText u, h)
    | none => ([], authority)
  let (h, p) := splitHost false hostPort
  if h = [] then throw (.host .empty)
  else
    let host ← match hostText h with
      | .ok host => pure host
      | .error f => throw (.host f)
    match port? p with
    | none => throw .invalidPort
    | some port =>
      let (path, query, fragment) := splitTail rest
      return {
        scheme, host, query, fragment
        userInfo := user
        port := if port = some scheme.defaultPort then none else port
        path := pathText [] (path.drop 1) }

/-- Reads a URL. -/
def Url.parse (raw : String) : Except UrlFault Url :=
  match splitScheme? (significant raw.toList) with
  | none => .error .noScheme
  | some (name, rest) =>
    if name = "http".toList then readAuthority .http (rest.dropWhile isSlash)
    else if name = "https".toList then readAuthority .https (rest.dropWhile isSlash)
    else .error .otherScheme

namespace Url

/-- The host with user and port, as it stands in the URL. -/
def authority (u : Url) : List Char :=
  (if u.userInfo = [] then [] else u.userInfo ++ ['@']) ++ u.host ++
    (match u.port with
      | none => []
      | some n => ':' :: Nat.toDigits 10 n)

/-- Path and query. -/
def resource (u : Url) : List Char :=
  u.path ++ (match u.query with
    | none => []
    | some q => '?' :: q)

def text (u : Url) : String :=
  u.scheme.name ++ "://" ++ String.ofList (u.authority ++ u.resource ++
    (match u.fragment with
      | none => []
      | some f => '#' :: f))

/-- Appends a parameter to the query. -/
def addParameter (u : Url) (name value : String) : Url :=
  let pair := formEncode name.toList ++ '=' :: formEncode value.toList
  { u with query := some (match u.query with
      | none => pair
      | some [] => pair
      | some q => q ++ '&' :: pair) }

/-- The segments of the directory of a path. -/
def directory (path : List Char) : List (List Char) :=
  ((Text.pieces (· == '/') path).drop 1).dropLast

/-- Reads a reference relative to a URL. One with the scheme of the URL is relative too, unless two
slashes follow the scheme. -/
def join (base : Url) (reference : String) : Except UrlFault Url :=
  let s := significant reference.toList
  match splitScheme? s with
  | some (name, rest) =>
    if name = base.scheme.name.toList then ofRest base rest else parse reference
  | none => ofRest base s
where
  ofRest (base : Url) (s : List Char) : Except UrlFault Url :=
    match s with
    | a :: b :: r =>
      if isSlash a && isSlash b then readAuthority base.scheme (r.dropWhile isSlash)
      else .ok (relative base s)
    | s => .ok (relative base s)
  relative (base : Url) (s : List Char) : Url :=
    let (path, query, fragment) := splitTail s
    if path = [] then { base with query := if query.isSome then query else base.query, fragment }
    else if (path.head?.map isSlash).getD false then
      { base with path := pathText [] (path.drop 1), query, fragment }
    else { base with path := pathText (directory base.path) path, query, fragment }

end Url

end SopDocs.Web
