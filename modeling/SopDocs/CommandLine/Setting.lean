import SopDocs.Index.Render
import SopDocs.Path
import SopDocs.Text.Word
/-!
What can be said by options, and how each value is read.
-/

namespace SopDocs.CommandLine

/-- How a lint report is printed. -/
inductive ReportFormat where
  | text
  | json
deriving DecidableEq, Inhabited

def ReportFormat.parse? : String → Option ReportFormat
  | "text" => some .text
  | "json" => some .json
  | _ => none

inductive Setting where
  | config (path : Path)
  | verbosity (level : Nat)
  | strict
  | noRemote
  | reportFormat (format : ReportFormat)
  | indexFormat (format : Index.Format)
  | output (path : Path)
  | days (count : Int)
  | createIssues
  | repository (name : String)
  | apiUrl (address : String)
deriving DecidableEq, Inhabited

/-- A path that is given; it is not empty. -/
def readPath? (word : String) : Option Path := if word.isEmpty then none else some ⟨word⟩

/-- The value of decimal digits, at least one. -/
def readDigits? (s : List Char) : Option Nat :=
  if s ≠ [] ∧ s.all Char.isDigit then some (Text.digitsValue s) else none

/-- A decimal number of 64 bits with an optional sign. -/
def readInteger? (word : String) : Option Int :=
  let number := match word.toList with
    | '-' :: s => (readDigits? s).map fun n => -(n : Int)
    | '+' :: s => (readDigits? s).map Int.ofNat
    | s => (readDigits? s).map Int.ofNat
  number.filter fun n => -(Nat.pow 2 63) ≤ n && n < Nat.pow 2 63

/-- Greatest level of verbosity. -/
def maxVerbosity : Nat := 2

def readVerbosity? (word : String) : Option Nat :=
  (readInteger? word).bind fun n => if 0 ≤ n ∧ n ≤ maxVerbosity then some n.toNat else none

/-- What an option stands for: one setting, or the setting that its value gives. -/
inductive Meaning where
  | flag (setting : Setting)
  | value (read : String → Option Setting)

/-- An option with its long name and its letter. -/
structure NamedOption where
  name : String
  letter : Option Char
  meaning : Meaning

namespace NamedOption

/-- Options that are known before and after the name of a command. -/
def everywhere : List NamedOption := [
  ⟨"config", some 'c', .value fun word => (readPath? word).map .config⟩,
  ⟨"verbosity", some 'v', .value fun word => (readVerbosity? word).map .verbosity⟩]

def ofLint : List NamedOption := [
  ⟨"strict", some 's', .flag .strict⟩,
  ⟨"no-remote", none, .flag .noRemote⟩,
  ⟨"format", some 'f', .value fun word => (ReportFormat.parse? word).map .reportFormat⟩]

def ofIndex : List NamedOption := [
  ⟨"format", some 'f', .value fun word => (Index.Format.parse? word).map .indexFormat⟩,
  ⟨"output", some 'o', .value fun word => (readPath? word).map .output⟩]

def ofReview : List NamedOption := [
  ⟨"days-review", none, .value fun word => (readInteger? word).map .days⟩,
  ⟨"create-issues", none, .flag .createIssues⟩,
  ⟨"repository", some 'r', .value fun word => some (.repository word)⟩,
  ⟨"api-url", none, .value fun word => some (.apiUrl word)⟩]

end NamedOption

end SopDocs.CommandLine
