import SopDocs.Calendar
import SopDocs.Path
import SopDocs.Text.Search
/-!
Reminders. A document that was last edited too many days ago is due for review; a reminder is an
issue on the tracker whose title names the file.
-/

namespace SopDocs.Review

/-- The label of reminders. -/
def label : String := "SOP-Review"

/-- An open issue of the tracker. -/
structure Issue where
  number : Nat
  title : String
  url : String
deriving DecidableEq, Inhabited

/-- An issue to be created. -/
structure Draft where
  title : String
  body : String
  labels : List String
deriving DecidableEq, Inhabited

/-- Whether more than `days` days have passed since the last edit. -/
def isDue (lastEdit today : Date) (days : Int) : Bool := days < lastEdit.daysUntil today

/-- The first issue whose title mentions a key. -/
def existingIssue? (key : String) (issues : List Issue) : Option Issue :=
  issues.find? fun issue => Text.contains issue.title key

def issueTitle (fileName : String) : String := s!"[SOP Review] Review due: '{fileName}'"

/-- What goes into a reminder. -/
structure Reminder where
  fileName : String
  filePath : String
  lastEdit : Date
  days : Int
  repository : String
  charterPath : String

/-- A path text without any leading `./`. -/
def dropHere : List Char → List Char
  | '.' :: '/' :: r => dropHere r
  | s => s

def issueBody (r : Reminder) : String :=
  let base := s!"https://github.com/{r.repository}/blob/main"
  let path := String.ofList (dropHere r.filePath.toList)
  let date := r.lastEdit.text
  "## Periodic review due\n\n" ++
    s!"[\x60{r.fileName}\x60]({base}/{path}) was last edited on **{date}**, " ++
    s!"more than {r.days} days ago.\n\n" ++
    s!"The [SOP charter]({base}/{r.charterPath}) asks for every SOP to be reviewed at least " ++
    s!"once every {r.days} days. Please check that the procedure still reflects current practice, " ++
    "update it where needed and add a row to its Document History table.\n\n" ++
    "Close this issue once the review has been merged.\n"

/-- The issue that a reminder becomes. -/
def Reminder.draft (r : Reminder) : Draft := ⟨issueTitle r.fileName, issueBody r, [label]⟩

end SopDocs.Review
