import SopDocs.Lint.DocumentHistory
import SopDocs.Lint.FileName
import SopDocs.Lint.Images
import SopDocs.Lint.MetadataTable
import SopDocs.Lint.References
import SopDocs.Lint.Report
import SopDocs.Lint.Roles
import SopDocs.Lint.Sections
import SopDocs.Lint.Steps
import SopDocs.Lint.Terms
import SopDocs.Lint.Title
/-!
The rules and the order in which they run. Rules do not depend on each other: the findings of a
document are what the rules find one by one.
-/

namespace SopDocs.Lint

inductive Rule where
  | titleFormat
  | requiredSections
  | nonEmptySections
  | metadataTable
  | documentHistory
  | rolesAndResponsibilities
  | stepNumbering
  | stepTables
  | charterGlossary
  | undefinedAcronyms
  | references
  | fileName
  | titleMatchesFileName
  | imagePaths
deriving DecidableEq, Inhabited

namespace Rule

/-- All rules, in the order in which they run. -/
def all : List Rule := [
  titleFormat, requiredSections, nonEmptySections, metadataTable, documentHistory,
  rolesAndResponsibilities, stepNumbering, stepTables, charterGlossary, undefinedAcronyms,
  references, fileName, titleMatchesFileName, imagePaths]

def id : Rule → String
  | titleFormat => "title-format"
  | requiredSections => "required-sections"
  | nonEmptySections => "non-empty-sections"
  | metadataTable => "metadata-table"
  | documentHistory => "document-history"
  | rolesAndResponsibilities => "roles-and-responsibilities"
  | stepNumbering => "step-numbering"
  | stepTables => "step-tables"
  | charterGlossary => "charter-glossary"
  | undefinedAcronyms => "undefined-acronyms"
  | references => "references"
  | fileName => "file-name"
  | titleMatchesFileName => "title-matches-file-name"
  | imagePaths => "image-paths"

def ofId? (id : String) : Option Rule := all.find? (·.id == id)

/-- The problems that a rule finds. -/
def problems : Rule → Context → List Problem
  | titleFormat => Lint.titleFormat
  | requiredSections => Lint.requiredSections
  | nonEmptySections => Lint.nonEmptySections
  | metadataTable => Lint.metadataTable
  | documentHistory => Lint.documentHistory
  | rolesAndResponsibilities => Lint.rolesAndResponsibilities
  | stepNumbering => Lint.stepNumbering
  | stepTables => Lint.stepTables
  | charterGlossary => Lint.charterGlossary
  | undefinedAcronyms => Lint.undefinedAcronyms
  | references => Lint.references
  | fileName => Lint.fileName
  | titleMatchesFileName => Lint.titleMatchesFileName
  | imagePaths => Lint.imagePaths

/-- Adds what a rule finds to the findings so far. -/
def check (rule : Rule) (ctx : Context) (strict : Bool) (f : Findings) : Findings :=
  f.addProblems strict (rule.problems ctx)

/-- The remote targets that a rule looks up, in order. -/
def probed (rule : Rule) (ctx : Context) : List String :=
  match rule with
  | references => probedTargets ctx
  | _ => []

end Rule

/-- Runs rules in order. -/
def runRules (rules : List Rule) (ctx : Context) (strict : Bool) : Findings :=
  rules.foldl (fun f rule => rule.check ctx strict f) .empty

/-- Runs all rules on a document. -/
def lintTree (ctx : Context) (strict : Bool) : Findings := runRules Rule.all ctx strict

/-- The remote targets that a run of all rules looks up. -/
def lintProbed (ctx : Context) : List String := Rule.all.flatMap (·.probed ctx)

end SopDocs.Lint
