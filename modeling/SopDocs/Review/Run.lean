import SopDocs.Conventions
import SopDocs.Files.Basic
import SopDocs.History
import SopDocs.Markdown.Document
import SopDocs.Review.Report
/-!
Review runs. Each file is examined on its own; a file that is due and has no reminder yet gets a
draft of one. What becomes of the drafts is told by a list of outcomes, in the order of the drafts;
a draft without a success leaves its file as it is.
-/

namespace SopDocs.Review

/-- The newest date in the history of a document on disk. -/
def lastEdit (files : Files) (path : Path) : Except Failure Date :=
  match files.read path with
  | .error fault => .error (.unreadable path fault)
  | .ok source => History.mostRecentDate (Markdown.parse source) path.text

/-- What the reminders of a document are found by: its identifier, or its name if it has none. -/
def lookupKey (conventions : Conventions) (path : Path) : String :=
  (conventions.fileIdentifier? path).getD (path.fileName?.getD "")

/-- What all files of a run have in common. -/
structure Setup where
  files : Files
  conventions : Conventions
  charterPath : String
  repository : String
  today : Date
  days : Int
  createIssues : Bool
  /-- The issues that are open when the run starts. -/
  issues : List Issue

/-- What is known about a file before any issue is created. -/
structure Examination where
  path : Path
  lastEdit : Date
  due : Bool
  existing : Option Issue
  draft : Option Draft
deriving DecidableEq, Inhabited

namespace Setup

def draftFor (setup : Setup) (path : Path) (date : Date) : Draft :=
  Reminder.draft {
    fileName := path.fileName?.getD ""
    filePath := path.text
    lastEdit := date
    days := setup.days
    repository := setup.repository
    charterPath := setup.charterPath }

/-- The examination of a file that was last edited on a date. -/
def examineDated (setup : Setup) (path : Path) (date : Date) : Examination :=
  let due := isDue date setup.today setup.days
  let existing :=
    if due then existingIssue? (lookupKey setup.conventions path) setup.issues else none
  let draft :=
    if due && existing.isNone && setup.createIssues then some (setup.draftFor path date) else none
  ⟨path, date, due, existing, draft⟩

def examine (setup : Setup) (path : Path) : Except Failure Examination :=
  (lastEdit setup.files path).map (setup.examineDated path)

/-- The drafts of a run, in order: those of the files before the first one without a date. -/
def drafts (setup : Setup) : List Path → List Draft
  | [] => []
  | path :: rest =>
    match setup.examine path with
    | .error _ => []
    | .ok examination => examination.draft.toList ++ drafts setup rest

end Setup

/-- The state of a file once the outcome of its draft is known. -/
def Examination.state (examination : Examination) (created : Option Issue) : FileState where
  path := examination.path.text
  lastEdit := examination.lastEdit.text
  due := examination.due
  existingIssue := examination.existing.map (·.url)
  newIssue := created.map (·.url)

namespace Setup

/-- The states of files. Each draft takes the first of the outcomes. -/
def states (setup : Setup) : List (Option Issue) → List Path → Except Failure (List FileState)
  | _, [] => .ok []
  | outcomes, path :: rest =>
    match setup.examine path with
    | .error failure => .error failure
    | .ok examination =>
      match examination.draft with
      | none => (states setup outcomes rest).map (examination.state none :: ·)
      | some _ =>
        (states setup outcomes.tail rest).map (examination.state outcomes.head?.join :: ·)

/-- The report of a run over files. -/
def report (setup : Setup) (outcomes : List (Option Issue)) (paths : List Path) :
    Except Failure Report :=
  (setup.states outcomes paths).map fun states =>
    states.foldl Report.push (.empty setup.today setup.days)

end Setup

end SopDocs.Review
