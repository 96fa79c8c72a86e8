import SopDocs.CommandLine.Invocation
import SopDocs.Config.Discovery
import SopDocs.Files.Finder
import SopDocs.Index.Build
import SopDocs.Index.Comparison
import SopDocs.Lint.Run
import SopDocs.Review.Run
import SopDocs.Web.LinkProbe
/-!
Running a command. A run is a function of the state of the world at its start; its result says what
is printed, how the run ends, what became of the files and what was sent.
-/

namespace SopDocs.CommandLine

open Web (Exchange)

structure World where
  files : Files
  transport : Web.Transport
  today : Date
  /-- The token for the issue tracker. -/
  token : Option String

/-- Why a command has no result. -/
inductive Problem where
  | failure (cause : Failure)
  | missingToken
  | tracker (fault : Review.TrackerFault)
deriving DecidableEq, Inhabited

/-- The variable of the environment that holds the token. -/
def tokenVariable : String := "GITHUB_TOKEN"

def Problem.message : Problem → String
  | failure cause => cause.message
  | missingToken =>
    s!"GitHub token not found. Please set the '{tokenVariable}' environment variable."
  | tracker fault => fault.message

/-- The result of a command. -/
structure Success where
  /-- Whether the command found something that fails the run. -/
  findings : Bool
  output : String
  files : Files

/-- What a command comes to. -/
abbrev Outcome := Exchange (Except Problem Success)

/-- The configuration of an invocation. -/
def configFor (files : Files) (invocation : Invocation) : Except Failure Config :=
  Config.discover files invocation.config (Files.pathOf files.current)

/-- The documents that inputs stand for. -/
def collect (files : Files) (config : Config) (inputs : List Path) : Except Failure (List Path) :=
  (Files.Finder.ofConfig config).map fun finder => finder.collect files inputs

/-- A text with a line end, or nothing if the run is to be silent. -/
def printed (verbosity : Nat) (text : String) : String :=
  if verbosity = 0 then "" else text ++ "\n"

def ReportFormat.render : ReportFormat → Lint.Report → String
  | text, report => "\n".intercalate report.lines
  | json, report => report.jsonText

/-- The lint run of a command over documents. -/
def lintSetup (world : World) (config : Config) (command : LintCommand) (paths : List Path) :
    Lint.Setup where
  files := world.files
  conventions := .ofConfig config
  inputs := paths
  probe :=
    if config.checkRemote && !command.noRemote then some (Web.probe world.transport) else none
  strict := command.strict

def runLint (world : World) (invocation : Invocation) (command : LintCommand) : Outcome :=
  let prepared : Except Failure (Lint.Setup × Config) := do
    let config ← configFor world.files invocation
    let paths ← collect world.files config command.inputs
    return (lintSetup world config command paths, config)
  match prepared with
  | .error failure => .done (.error (.failure failure))
  | .ok (setup, config) =>
    ⟨Web.probeRequests world.transport (setup.probed config),
      match setup.run config with
      | .error failure => .error (.failure failure)
      | .ok report =>
        let text := command.format.render report
        .ok ⟨report.hasErrors, printed invocation.verbosity text, world.files⟩⟩

def runIndex (world : World) (invocation : Invocation) (command : IndexCommand) :
    Except Failure Success := do
  let config ← configFor world.files invocation
  let paths ← collect world.files config command.inputs
  let entries ← Index.build world.files paths
  let text := Index.render command.format entries
  match command.output with
  | none => return ⟨false, text, world.files⟩
  | some path =>
    let files ← Index.write world.files path text
    return ⟨false, "", files⟩

/-- How messages name the index that is made of inputs. -/
def generatedLabel (inputs : List Path) : String :=
  "generated from " ++ Text.quotedAll "[" "]" (inputs.map (·.text))

def runCompareIndex (world : World) (invocation : Invocation) (existing : Path)
    (inputs : List Path) : Except Failure Success := do
  let config ← configFor world.files invocation
  let old ← Index.Table.read world.files existing
  old.checkDuplicates existing.text
  let paths ← collect world.files config inputs
  let new := Index.Table.ofEntries (← Index.build world.files paths)
  new.checkDuplicates (generatedLabel inputs)
  let comparison := Index.compare old new
  let text := comparison.toJson.pretty
  return ⟨comparison.hasDifferences, printed invocation.verbosity text, world.files⟩

/-- The review run of a command. -/
def reviewSetup (world : World) (config : Config) (command : ReviewCommand)
    (issues : List Review.Issue) : Review.Setup where
  files := world.files
  conventions := .ofConfig config
  charterPath := config.charterPath
  repository := command.repository.getD config.repository
  today := world.today
  days := command.days.getD config.reviewDays
  createIssues := command.createIssues
  issues

/-- Creates the issues of a run and reports on its files. -/
def carryOut (world : World) (tracker : Review.Tracker) (setup : Review.Setup)
    (paths : List Path) : Exchange (Except Failure Review.Report) :=
  let created := (setup.drafts paths).map (tracker.create world.transport)
  ⟨created.flatMap (·.requests), setup.report (created.map (·.result.toOption)) paths⟩

def runReview (world : World) (invocation : Invocation) (command : ReviewCommand) : Outcome :=
  let prepared : Except Problem (Config × List Path × Review.Tracker) :=
    match world.token with
    | none => .error .missingToken
    | some token =>
      match configFor world.files invocation with
      | .error failure => .error (.failure failure)
      | .ok config =>
        match collect world.files config command.inputs with
        | .error failure => .error (.failure failure)
        | .ok paths =>
          match Review.Tracker.ofRepository command.apiUrl
              (command.repository.getD config.repository) token with
          | .error fault => .error (.tracker fault)
          | .ok tracker => .ok (config, paths, tracker)
  match prepared with
  | .error problem => .done (.error problem)
  | .ok (config, paths, tracker) =>
    (tracker.openIssues world.transport Review.label).andThen fun
      | .error fault => .done (.error (.tracker fault))
      | .ok issues =>
        (carryOut world tracker (reviewSetup world config command issues) paths).map fun
          | .error failure => .error (.failure failure)
          | .ok report =>
            .ok ⟨false, printed invocation.verbosity report.toJson.pretty, world.files⟩

/-- Runs a command that sends nothing. -/
def offline (result : Except Failure Success) : Outcome :=
  .done (match result with
    | .error failure => .error (.failure failure)
    | .ok success => .ok success)

def runCommand (world : World) (invocation : Invocation) : Outcome :=
  match invocation.command with
  | .lint command => runLint world invocation command
  | .index command => offline (runIndex world invocation command)
  | .compareIndex existing inputs => offline (runCompareIndex world invocation existing inputs)
  | .review command => runReview world invocation command

/-- How a run of the program ends. -/
structure Ending where
  exitCode : Nat
  output : String
  /-- What is said about a run without a result. -/
  complaint : Option String
  files : Files

/-- The answer to a question for the version. -/
def versionText : String := "soplint 0.1.0\n"

/-- The answer to a question for help, and what is said about misuse. -/
def usageText : String :=
  "Usage: soplint [--config PATH] [--verbosity 0..2] COMMAND\n\n" ++
    "Commands:\n" ++
    "  lint INPUTS... [--strict] [--no-remote] [--format text|json]\n" ++
    "  index INPUTS... [--format markdown|csv|json] [--output PATH]\n" ++
    "  compare-index EXISTING INPUTS...\n" ++
    "  review INPUTS... [--days-review DAYS] [--create-issues] [--repository OWNER/NAME]\n"

def endingOfStop (files : Files) : Stop → Ending
  | .misuse => ⟨2, "", some usageText, files⟩
  | .help => ⟨0, usageText, none, files⟩
  | .version => ⟨0, versionText, none, files⟩

/-- A run fails with 2 if it has no result, and with 1 if something was found. -/
def endingOf (files : Files) : Except Problem Success → Ending
  | .error problem => ⟨2, "", some (problem.message ++ "\n"), files⟩
  | .ok success => ⟨if success.findings then 1 else 0, success.output, none, success.files⟩

/-- Runs the program with the words of a command line. -/
def run (world : World) (words : List String) : Exchange Ending :=
  match Invocation.ofWords words with
  | .error stop => .done (endingOfStop world.files stop)
  | .ok invocation => (runCommand world invocation).map (endingOf world.files)

end SopDocs.CommandLine
