import SopDocs.Json.Writer
import SopDocs.Lint.Problem
import SopDocs.Sorted
/-!
Findings of one document and the report of a run. Strict mode makes every warning an error and
changes nothing else.
-/

namespace SopDocs.Lint

structure Findings where
  errors : List String
  warnings : List String
deriving DecidableEq, Inhabited

namespace Findings

def empty : Findings := ⟨[], []⟩

def hasErrors (f : Findings) : Bool := !f.errors.isEmpty

def isEmpty (f : Findings) : Bool := f.errors.isEmpty && f.warnings.isEmpty

def size (f : Findings) : Nat := f.errors.length + f.warnings.length

/-- Adds a message at the end of the list of its severity. -/
def add (strict : Bool) (severity : Severity) (message : String) (f : Findings) : Findings :=
  match severity with
  | .error => ⟨f.errors ++ [message], f.warnings⟩
  | .warning =>
    if strict then ⟨f.errors ++ [message], f.warnings⟩ else ⟨f.errors, f.warnings ++ [message]⟩

def addProblem (strict : Bool) (f : Findings) (p : Problem) : Findings :=
  f.add strict p.severity p.message

def addProblems (strict : Bool) (f : Findings) (ps : List Problem) : Findings :=
  ps.foldl (addProblem strict) f

/-- The findings that a list of problems amounts to. -/
def ofProblems (strict : Bool) (ps : List Problem) : Findings := empty.addProblems strict ps

def toJson (f : Findings) : Json.Value :=
  .object [
    ("errors", .array (f.errors.map .string)),
    ("warnings", .array (f.warnings.map .string))]

end Findings

/-- Findings by path text, in ascending order of the texts. -/
structure Report where
  files : List (String × Findings)
deriving DecidableEq, Inhabited

namespace Report

def empty : Report := ⟨[]⟩

def insert (r : Report) (path : Path) (f : Findings) : Report := ⟨Sorted.put path.text f r.files⟩

def get? (r : Report) (path : Path) : Option Findings :=
  Sorted.get? path.text r.files

def size (r : Report) : Nat := r.files.length

def hasErrors (r : Report) : Bool := r.files.any (·.2.hasErrors)

def errorCount (r : Report) : Nat := (r.files.map (·.2.errors.length)).foldl (· + ·) 0

def warningCount (r : Report) : Nat := (r.files.map (·.2.warnings.length)).foldl (· + ·) 0

def toJson (r : Report) : Json.Value := .object (r.files.map fun (p, f) => (p, f.toJson))

def jsonText (r : Report) : String := r.toJson.pretty

/-- The lines about one document; none if there is nothing to tell. -/
def fileLines (path : String) (f : Findings) : List String :=
  if f.isEmpty then []
  else ["", path ++ ":"] ++ f.errors.map ("  error: " ++ ·) ++ f.warnings.map ("  warning: " ++ ·)

/-- The report as text, for reading. -/
def lines (r : Report) : List String :=
  (r.files.map fun (p, f) => fileLines p f).flatten ++
    ["", s!"Checked {r.size} files, found {r.errorCount} errors and {r.warningCount} warnings"]

end Report

end SopDocs.Lint
