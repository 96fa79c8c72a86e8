import SopDocs.Lint.Context
/-!
The rule about references: a relative target exists, and a remote one resolves. A remote target is
looked up when it first occurs; later occurrences use the known outcome.
-/

namespace SopDocs.Lint

open Reference

/-- Outcomes of the targets looked up so far, the last one first. -/
structure Lookups where
  known : List (String × Outcome)

namespace Lookups

def empty : Lookups := ⟨[]⟩

def get? (l : Lookups) (url : String) : Option Outcome := (l.known.find? (·.1 == url)).map (·.2)

/-- The outcome of a target, looked up if it is not known. -/
def ask (probe : Probe) (url : String) (l : Lookups) : Outcome × Lookups :=
  match l.get? url with
  | some outcome => (outcome, l)
  | none => let outcome := probe url; (outcome, ⟨(url, outcome) :: l.known⟩)

/-- The targets looked up, in order. -/
def asked (l : Lookups) : List String := (l.known.map (·.1)).reverse

end Lookups

/-- The targets of the links of a document. -/
def linkTargets (root : Tree.Node) : List String := (root.findAll .link).filterMap (·.target)

def outcomeProblems (url : String) : Outcome → List Problem
  | .reachable => []
  | .notFound => [.linkNotFound url]
  | .unresolvable cause => [.linkUnresolvable url cause]

/-- Checks one target. -/
def checkTarget (ctx : Context) (url : String) (known : Lookups) : List Problem × Lookups :=
  match classify ctx.conventions.remoteHosts url with
  | .other => ([], known)
  | .relative target =>
    let resolved := resolve ctx.path target
    (if ctx.found resolved then [] else [.missingTarget url resolved], known)
  | .remote url =>
    match ctx.probe with
    | none => ([], known)
    | some probe =>
      let (outcome, known) := known.ask probe url
      (outcomeProblems url outcome, known)

def checkTargets (ctx : Context) : List String → Lookups → List Problem × Lookups
  | [], known => ([], known)
  | url :: r, known =>
    let (problems, known) := checkTarget ctx url known
    let (more, known) := checkTargets ctx r known
    (problems ++ more, known)

/-- The problems of all references, and what was looked up to find them. -/
def checkReferences (ctx : Context) : List Problem × Lookups :=
  checkTargets ctx (linkTargets ctx.root) .empty

def references (ctx : Context) : List Problem := (checkReferences ctx).1

/-- The remote targets that the rule looks up, in order. -/
def probedTargets (ctx : Context) : List String := (checkReferences ctx).2.asked

end SopDocs.Lint
