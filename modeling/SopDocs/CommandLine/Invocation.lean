import SopDocs.CommandLine.Reading
import SopDocs.Review.Tracker
/-!
What a command line asks for: a command with its operands and settings, and the settings that all
commands share. Where nothing is said the standard values hold.
-/

namespace SopDocs.CommandLine

structure LintCommand where
  inputs : List Path
  strict : Bool
  noRemote : Bool
  format : ReportFormat
deriving DecidableEq, Inhabited

structure IndexCommand where
  inputs : List Path
  format : Index.Format
  output : Option Path
deriving DecidableEq, Inhabited

structure ReviewCommand where
  inputs : List Path
  days : Option Int
  createIssues : Bool
  repository : Option String
  apiUrl : String
deriving DecidableEq, Inhabited

inductive Command where
  | lint (command : LintCommand)
  | index (command : IndexCommand)
  | compareIndex (existing : Path) (inputs : List Path)
  | review (command : ReviewCommand)
deriving DecidableEq, Inhabited

structure Invocation where
  config : Option Path
  verbosity : Nat
  command : Command
deriving DecidableEq, Inhabited

def configOf? : Setting → Option Path
  | .config path => some path
  | _ => none

def verbosityOf? : Setting → Option Nat
  | .verbosity level => some level
  | _ => none

def reportFormatOf? : Setting → Option ReportFormat
  | .reportFormat format => some format
  | _ => none

def indexFormatOf? : Setting → Option Index.Format
  | .indexFormat format => some format
  | _ => none

def outputOf? : Setting → Option Path
  | .output path => some path
  | _ => none

def daysOf? : Setting → Option Int
  | .days count => some count
  | _ => none

def repositoryOf? : Setting → Option String
  | .repository name => some name
  | _ => none

def apiUrlOf? : Setting → Option String
  | .apiUrl address => some address
  | _ => none

/-- The command with its operands; every command needs inputs. -/
def commandOf? (name : CommandName) (operands : List Path) (settings : List Setting) :
    Option Command :=
  match name, operands with
  | _, [] => none
  | .lint, inputs =>
    some (.lint {
      inputs
      strict := settings.contains .strict
      noRemote := settings.contains .noRemote
      format := (settings.findSome? reportFormatOf?).getD .text })
  | .index, inputs =>
    some (.index {
      inputs
      format := (settings.findSome? indexFormatOf?).getD .markdown
      output := settings.findSome? outputOf? })
  | .compareIndex, [_] => none
  | .compareIndex, existing :: inputs => some (.compareIndex existing inputs)
  | .review, inputs =>
    some (.review {
      inputs
      days := settings.findSome? daysOf?
      createIssues := settings.contains .createIssues
      repository := settings.findSome? repositoryOf?
      apiUrl := (settings.findSome? apiUrlOf?).getD Review.Tracker.standardBase })

/-- What the words of a command line ask for. A shared setting after the command counts before one
in front of it. -/
def Invocation.ofWords (words : List String) : Except Stop Invocation := do
  let reading ← Reading.ofWords words
  match reading.command with
  | none => throw .misuse
  | some (name, before) =>
    match commandOf? name (reading.operands.map Path.mk) reading.settings with
    | none => throw .misuse
    | some command =>
      let settings := reading.settings ++ before
      return {
        config := settings.findSome? configOf?
        verbosity := (settings.findSome? verbosityOf?).getD 0
        command }

end SopDocs.CommandLine
