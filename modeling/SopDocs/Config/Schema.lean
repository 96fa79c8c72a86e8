import SopDocs.Json.Writer
import SopDocs.Sorted
/-!
What a configuration object may hold: a shape for each key, and what a value can do wrong. Only the
first violation is reported, keys in ascending order, a wrong type before anything else.
-/

namespace SopDocs

namespace Config

/-- What the value of a key must be. -/
inductive Shape where
  | text
  | someText
  | repositoryName
  | flag
  | whole (minimum : Nat)
  | texts
  | someTexts
deriving DecidableEq, Inhabited

/-- The shapes of the keys, in ascending order. -/
def schema : List (String × Shape) := [
  ("$schema", .text),
  ("charterPath", .someText),
  ("checkRemote", .flag),
  ("exclude", .texts),
  ("identifierPrefix", .someText),
  ("imagesDir", .someText),
  ("remoteHosts", .someTexts),
  ("repository", .repositoryName),
  ("requestTimeoutSecs", .whole 1),
  ("reviewDays", .whole 0),
  ("rootMarker", .someText),
  ("titlePrefix", .text)]

/-- Types of values, as they are named in messages. -/
inductive TypeName where
  | object
  | string
  | boolean
  | integer
  | array
deriving DecidableEq, Inhabited

def TypeName.text : TypeName → String
  | object => "object"
  | string => "string"
  | boolean => "boolean"
  | integer => "integer"
  | array => "array"

/-- The pattern of repository names, as it is shown in messages. -/
def repositoryPattern : String :=
  let piece := "[^/[ \t\n\r\x0b\x0c\u00a0\ufeff\u2003\u2029]]+"
  "^" ++ piece ++ "/" ++ piece ++ "$"

/-- Characters that no repository name holds besides the slash in its middle. -/
def repositoryBlanks : List Char :=
  [' ', '\t', '\n', '\r', '\x0b', '\x0c', '\u00a0', '\ufeff', '\u2003', '\u2029']

def isRepositoryPart (s : List Char) : Bool :=
  s != [] && s.all fun c => c != '/' && !repositoryBlanks.contains c

/-- Owner and name, with one slash between them. -/
def isRepositoryName (s : String) : Bool :=
  let owner := s.toList.takeWhile (· != '/')
  match s.toList.drop owner.length with
  | '/' :: name => isRepositoryPart owner && isRepositoryPart name
  | _ => false

inductive Violation where
  | wrongType (value : Json.Value) (type : TypeName)
  | unknownKey (key : String)
  | belowMinimum (value : Json.Value) (minimum : Nat)
  | emptyText
  | mismatch (value : Json.Value) (pattern : String)

def Violation.message : Violation → String
  | wrongType value type => s!"{value.compact} is not of type \"{type.text}\""
  | unknownKey key => s!"Additional properties are not allowed ('{key}' was unexpected)"
  | belowMinimum value minimum => s!"{value.compact} is less than the minimum of {minimum}"
  | emptyText => "\"\" is shorter than 1 character"
  | mismatch value pattern => s!"{value.compact} does not match \"{pattern}\""

def textViolation? (nonEmpty : Bool) : Json.Value → Option Violation
  | .string s => if nonEmpty && s.isEmpty then some .emptyText else none
  | v => some (.wrongType v .string)

/-- The first violation in a list of texts, with its place below `pointer`. -/
def itemViolation? (nonEmpty : Bool) (pointer : String) : Nat → List Json.Value →
    Option (Violation × String)
  | _, [] => none
  | i, v :: r =>
    match textViolation? nonEmpty v with
    | some violation => some (violation, s!"{pointer}/{i}")
    | none => itemViolation? nonEmpty pointer (i + 1) r

/-- A whole number, written with or without a fraction of zeros. -/
def wholeViolation? (minimum : Nat) (v : Json.Value) : Option Violation :=
  match v with
  | .int n => if n < minimum then some (.belowMinimum v minimum) else none
  | .float x =>
    if !Json.isWhole x then some (.wrongType v .integer)
    else if Json.isBelow x minimum then some (.belowMinimum v minimum)
    else none
  | v => some (.wrongType v .integer)

/-- The first violation of a value of a given shape, with its place. -/
def Shape.violation? (shape : Shape) (pointer : String) (v : Json.Value) :
    Option (Violation × String) :=
  match shape with
  | .text => (textViolation? false v).map (·, pointer)
  | .someText => (textViolation? true v).map (·, pointer)
  | .repositoryName =>
    match v with
    | .string s =>
      if isRepositoryName s then none else some (.mismatch v repositoryPattern, pointer)
    | v => some (.wrongType v .string, pointer)
  | .flag =>
    match v with
    | .bool _ => none
    | v => some (.wrongType v .boolean, pointer)
  | .whole minimum => (wholeViolation? minimum v).map (·, pointer)
  | .texts => items false
  | .someTexts => items true
where
  items (nonEmpty : Bool) : Option (Violation × String) :=
    match v with
    | .array vs => itemViolation? nonEmpty pointer 0 vs
    | v => some (.wrongType v .array, pointer)

def memberViolation? (key : String) (v : Json.Value) : Option (Violation × String) :=
  match Sorted.get? key schema with
  | none => some (.unknownKey key, "")
  | some shape => shape.violation? ("/" ++ key) v

/-- The first violation of a configuration, with the pointer to its place. -/
def violation? : Json.Value → Option (Violation × String)
  | .object members => members.findSome? fun (key, v) => memberViolation? key v
  | v => some (.wrongType v .object, "")

end Config

end SopDocs
