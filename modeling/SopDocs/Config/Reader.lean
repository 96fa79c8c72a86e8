import SopDocs.Config
import SopDocs.Config.Schema
import SopDocs.Failure
import SopDocs.Json.Reader
/-!
Reading a configuration from JSON text: the text must be JSON, the value must satisfy the schema,
and its numbers must fit the settings they are for. Settings that are not mentioned keep their
standard value.
-/

namespace SopDocs

namespace Config

/-- Why a number does not fit a setting. -/
inductive Misfit where
  | fraction (value : Decimal.Binary) (expected : String)
  | outOfRange (value : Int) (expected : String)
  | other

def Misfit.message : Misfit → String
  | fraction value expected =>
    s!"invalid type: floating point \x60{Json.floatText value}\x60, expected {expected}"
  | outOfRange value expected => s!"invalid value: integer \x60{value}\x60, expected {expected}"
  | other => "invalid type"

def ofText : Json.Value → Except Misfit String
  | .string s => .ok s
  | _ => .error .other

def ofFlag : Json.Value → Except Misfit Bool
  | .bool b => .ok b
  | _ => .error .other

def ofTexts : Json.Value → Except Misfit (List String)
  | .array vs => vs.mapM ofText
  | _ => .error .other

/-- A whole number of 64 bits without sign. -/
def ofUnsigned : Json.Value → Except Misfit Nat
  | .int n => if 0 ≤ n ∧ n ≤ Json.maxUnsigned then .ok n.toNat else .error (.outOfRange n "u64")
  | .float x => .error (.fraction x "u64")
  | _ => .error .other

/-- A whole number of 64 bits with sign. -/
def ofSigned : Json.Value → Except Misfit Int
  | .int n =>
    if Json.minSigned ≤ n ∧ n ≤ Json.maxSigned then .ok n else .error (.outOfRange n "i64")
  | .float x => .error (.fraction x "i64")
  | _ => .error .other

/-- Takes one setting over; keys that are no setting change nothing. -/
def set (config : Config) (key : String) (v : Json.Value) : Except Misfit Config :=
  match key with
  | "titlePrefix" => (ofText v).map fun s => { config with titlePrefix := s }
  | "identifierPrefix" => (ofText v).map fun s => { config with identifierPrefix := s }
  | "imagesDir" => (ofText v).map fun s => { config with imagesDir := s }
  | "charterPath" => (ofText v).map fun s => { config with charterPath := s }
  | "rootMarker" => (ofText v).map fun s => { config with rootMarker := s }
  | "remoteHosts" => (ofTexts v).map fun l => { config with remoteHosts := l }
  | "checkRemote" => (ofFlag v).map fun b => { config with checkRemote := b }
  | "requestTimeoutSecs" => (ofUnsigned v).map fun n => { config with requestTimeoutSecs := n }
  | "exclude" => (ofTexts v).map fun l => { config with exclude := l }
  | "reviewDays" => (ofSigned v).map fun n => { config with reviewDays := n }
  | "repository" => (ofText v).map fun s => { config with repository := s }
  | _ => .ok config

/-- Takes settings over in order. -/
def setAll (config : Config) : List (String × Json.Value) → Except Misfit Config
  | [] => .ok config
  | (key, v) :: r => do
    let next ← config.set key v
    next.setAll r

/-- The settings of a JSON value. -/
def ofJson : Json.Value → Except Misfit Config
  | .object members => standard.setAll members
  | _ => .error .other

/-- Reads a configuration. -/
def read (text : String) : Except Failure Config :=
  match Json.parse text with
  | .error detail => .error (.invalidJson detail)
  | .ok v =>
    match violation? v with
    | some (violation, pointer) => .error (.schemaViolation violation.message pointer)
    | none =>
      match ofJson v with
      | .ok config => .ok config
      | .error misfit => .error (.invalidSetting misfit.message)

/-- All settings as a JSON object. -/
def toJson (c : Config) : Json.Value :=
  .object [
    ("titlePrefix", .string c.titlePrefix),
    ("identifierPrefix", .string c.identifierPrefix),
    ("imagesDir", .string c.imagesDir),
    ("charterPath", .string c.charterPath),
    ("rootMarker", .string c.rootMarker),
    ("remoteHosts", .array (c.remoteHosts.map .string)),
    ("checkRemote", .bool c.checkRemote),
    ("requestTimeoutSecs", .int c.requestTimeoutSecs),
    ("exclude", .array (c.exclude.map .string)),
    ("reviewDays", .int c.reviewDays),
    ("repository", .string c.repository)]

end Config

end SopDocs
