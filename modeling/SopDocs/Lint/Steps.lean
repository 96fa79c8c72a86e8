import SopDocs.Procedure
import SopDocs.History
import SopDocs.Lint.Context
/-!
Rules about the steps of the procedure: top-level steps are numbered in sequence, and each step is
followed by a table that starts with the number of the step.
-/

namespace SopDocs.Lint

open SopDocs.Tree

/-- The number after a step. Numbers stop at the greatest one that is read. -/
def nextStep (n : Nat) : Nat := min (n + 1) Procedure.maxStep

/-- What is wrong with the numbers of step headings, the first of which should be `expected`. -/
def numberingProblems (expected : Nat) : List Node → List Problem
  | [] => []
  | heading :: r =>
    let text := Procedure.headingText heading
    match Procedure.stepNumber? text with
    | none => .stepUnnumbered (String.ofList text) expected :: numberingProblems expected r
    | some found =>
      (if found = expected then [] else [.stepMisnumbered (String.ofList text) found expected]) ++
        numberingProblems (nextStep found) r

def stepNumbering (ctx : Context) : List Problem :=
  match Procedure.section? ctx.root with
  | none => []
  | some siblings => numberingProblems 1 (Procedure.stepHeadings siblings)

/-- The first table before the next heading. -/
def stepTable? (siblings : List Node) : Option Node :=
  (siblings.takeWhile fun n => n.headingDepth.isNone).find? (·.kind == .table)

/-- What is wrong with the table after the heading of a step. -/
def stepTableProblems (step : String) (siblings : List Node) : List Problem :=
  match stepTable? siblings with
  | none => [.noStepTable step]
  | some table =>
    match table.bodyRows.head?.bind List.head? with
    | none => [.emptyStepTable step]
    | some cell => if History.bareCell cell = step then [] else [.stepTableStart step cell]

/-- The dotted path of a node, if it is the heading of a step. -/
def stepOf? (node : Node) : Option String :=
  if node.headingDepth.isSome then
    (Procedure.stepPath? (Procedure.headingText node)).map String.ofList
  else none

def tableProblems : List Node → List Problem
  | [] => []
  | node :: r =>
    (match stepOf? node with
      | none => []
      | some step => stepTableProblems step r) ++ tableProblems r

def stepTables (ctx : Context) : List Problem :=
  match Procedure.section? ctx.root with
  | none => []
  | some siblings => tableProblems siblings

end SopDocs.Lint
