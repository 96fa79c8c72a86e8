import SopDocs.Charter
import SopDocs.Lint.Rule
/-!
Runs over files: each document is read, gets the glossary of its charter and is checked by all
rules. The first document that cannot be read or has no charter ends the run.
-/

namespace SopDocs.Lint

/-- What all documents of a run have in common. -/
structure Setup where
  files : Files
  conventions : Conventions
  inputs : List Path
  probe : Option Reference.Probe
  strict : Bool

namespace Setup

/-- What the rules look at for one document, and the charters known from then on. -/
def context (setup : Setup) (charters : Charters) (path : Path) :
    Except Failure Context × Charters :=
  match setup.files.read path with
  | .error fault => (.error (.unreadable path fault), charters)
  | .ok source =>
    match charters.glossaryFor setup.files path with
    | (.error failure, charters) => (.error failure, charters)
    | (.ok charter, charters) =>
      (.ok {
        path
        root := Markdown.parse source
        conventions := setup.conventions
        inputs := setup.inputs
        charter
        found := setup.files.found
        probe := setup.probe }, charters)

/-- The findings of one document. -/
def lintFile (setup : Setup) (charters : Charters) (path : Path) :
    Except Failure Findings × Charters :=
  match setup.context charters path with
  | (.error failure, charters) => (.error failure, charters)
  | (.ok ctx, charters) => (.ok (lintTree ctx setup.strict), charters)

/-- Adds the findings of documents to a report. -/
def lintAll (setup : Setup) : Charters → Report → List Path → Except Failure Report
  | _, report, [] => .ok report
  | charters, report, path :: rest =>
    match setup.lintFile charters path with
    | (.error failure, _) => .error failure
    | (.ok findings, charters) => lintAll setup charters (report.insert path findings) rest

/-- The remote targets that a run looks up, in order: document by document up to the one that ends
it. -/
def probedAll (setup : Setup) : Charters → List Path → List String
  | _, [] => []
  | charters, path :: rest =>
    match setup.context charters path with
    | (.error _, _) => []
    | (.ok ctx, charters) => lintProbed ctx ++ probedAll setup charters rest

/-- The report about all inputs. -/
def run (setup : Setup) (config : Config) : Except Failure Report :=
  setup.lintAll (.ofConfig config) .empty setup.inputs

def probed (setup : Setup) (config : Config) : List String :=
  setup.probedAll (.ofConfig config) setup.inputs

end Setup

end SopDocs.Lint
