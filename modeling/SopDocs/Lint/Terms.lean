import SopDocs.Text.Word
import SopDocs.Lint.Context
/-!
Rules about terms: those of the document's glossary are in the charter's, and every acronym of a
text run is in the document's glossary, itself or without a plural `s`.
-/

namespace SopDocs.Lint

/-- The terms of one glossary that another does not have. -/
def strayTerms (glossary charter : Glossary) : List Problem :=
  (glossary.terms.filter fun term => !charter.contains term).map .termNotInCharter

def charterGlossary (ctx : Context) : List Problem := strayTerms ctx.glossary ctx.charter

/-- Two or more capital letters of ASCII. -/
def isCapitals (s : List Char) : Bool := 2 ≤ s.length && s.all Char.isUpper

/-- The text without one final `s`. -/
def singular? (s : List Char) : Option (List Char) :=
  match s.reverse with
  | 's' :: r => some r.reverse
  | _ => none

/-- Capitals with an optional plural `s`. -/
def isAcronym (word : List Char) : Bool :=
  isCapitals word || (match singular? word with
    | some r => isCapitals r
    | none => false)

/-- The acronyms of one text. -/
def acronyms (text : String) : List String :=
  ((Text.words text.toList).filter isAcronym).map String.ofList

/-- The acronyms of the text runs of a document. Runs are read one at a time, so that neighbours do
not merge into one word. -/
def documentAcronyms (root : Tree.Node) : List String :=
  (root.findAll .str).flatMap fun run => acronyms (run.value.getD "")

def isDefined (g : Glossary) (acronym : String) : Bool :=
  g.contains acronym || (match singular? acronym.toList with
    | some r => g.contains (String.ofList r)
    | none => false)

/-- Drops what has occurred before. -/
def firstOccurrences : List String → List String
  | [] => []
  | a :: r => a :: (firstOccurrences r).filter (· != a)

/-- The acronyms of a document that a glossary does not define. -/
def strayAcronyms (root : Tree.Node) (glossary : Glossary) : List Problem :=
  ((firstOccurrences (documentAcronyms root)).filter (! isDefined glossary ·)).map
    .undefinedAcronym

def undefinedAcronyms (ctx : Context) : List Problem := strayAcronyms ctx.root ctx.glossary

end SopDocs.Lint
