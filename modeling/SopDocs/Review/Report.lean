import SopDocs.Json.Writer
import SopDocs.Review.Reminder
/-!
The report of a review run: the state of each file and three counts, kept up to date as files
come in.
-/

namespace SopDocs.Review

/-- The state of one file. -/
structure FileState where
  path : String
  lastEdit : String
  due : Bool
  /-- Address of a reminder that was open before. -/
  existingIssue : Option String
  /-- Address of a reminder created by this run. -/
  newIssue : Option String
deriving DecidableEq, Inhabited

structure Report where
  inputCount : Nat
  dueCount : Nat
  today : String
  days : Int
  createdCount : Nat
  files : List FileState
deriving DecidableEq, Inhabited

namespace Report

def empty (today : Date) (days : Int) : Report where
  inputCount := 0
  dueCount := 0
  today := today.text
  days
  createdCount := 0
  files := []

/-- Adds a file and counts it. -/
def push (r : Report) (f : FileState) : Report :=
  { r with
    inputCount := r.inputCount + 1
    dueCount := if f.due then r.dueCount + 1 else r.dueCount
    createdCount := if f.newIssue.isSome then r.createdCount + 1 else r.createdCount
    files := r.files ++ [f] }

/-- The files that are due, in order. -/
def due (r : Report) : List FileState := r.files.filter (·.due)

end Report

def optionalText : Option String → Json.Value
  | none => .null
  | some s => .string s

def FileState.toJson (f : FileState) : Json.Value :=
  .object [
    ("filepath", .string f.path),
    ("last_edit_date", .string f.lastEdit),
    ("due_review", .bool f.due),
    ("existing_issue", optionalText f.existingIssue),
    ("new_issue", optionalText f.newIssue)]

def Report.toJson (r : Report) : Json.Value :=
  .object [
    ("n_input_files", .int r.inputCount),
    ("n_files_due_review", .int r.dueCount),
    ("date_now", .string r.today),
    ("n_days_threshold", .int r.days),
    ("n_created_issues", .int r.createdCount),
    ("all_files", .array (r.files.map FileState.toJson))]

end SopDocs.Review
