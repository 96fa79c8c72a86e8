import SopDocs.Text.Blank
import SopDocs.Text.Search
import SopDocs.Text.Word
import SopDocs.Tree.Section
import SopDocs.Tree.Table
/-!
Procedure steps. A step is a heading that starts with `8.` and a number; a nested step continues
with further numbers after dots.
-/

namespace SopDocs

namespace Procedure

/-- Level of the headings of top-level steps. -/
def stepDepth : Nat := 4

/-- What precedes the number of a step. -/
def stepStart : List Char := ['8', '.']

def digits (s : List Char) : List Char := s.takeWhile Text.isDecimalDigit

/-- The digits of a step number at the start of a heading. -/
def stepDigits? (heading : List Char) : Option (List Char) :=
  (Text.dropStart? stepStart heading).bind fun r =>
    if digits r = [] then none else some (digits r)

/-- The greatest step number that is read. -/
def maxStep : Nat := UInt64.size - 1

/-- The number of a step; none if its digits are not all ASCII or too large. -/
def stepNumber? (heading : List Char) : Option Nat :=
  (stepDigits? heading).bind fun ds =>
    if ds.all Char.isDigit ∧ Text.digitsValue ds ≤ maxStep then some (Text.digitsValue ds) else none

/-- Numbers after dots that continue a path. The bound is the length of the text. -/
def moreComponents : Nat → List Char → List Char
  | 0, _ => []
  | bound + 1, s =>
    match s with
    | '.' :: r =>
      if digits r = [] then []
      else '.' :: (digits r ++ moreComponents bound (r.drop (digits r).length))
    | _ => []

/-- The dotted path of a step at the start of a heading, without the leading `8.`. -/
def stepPath? (heading : List Char) : Option (List Char) :=
  (Text.dropStart? stepStart heading).bind fun r =>
    if digits r = [] then none
    else some (digits r ++ moreComponents r.length (r.drop (digits r).length))

/-- The trimmed text of a heading. -/
def headingText (node : Tree.Node) : List Char := Text.trim node.plainText.toList

/-- The headings of top-level steps in a section. -/
def stepHeadings (siblings : List Tree.Node) : List Tree.Node :=
  siblings.filter (·.headingDepth == some stepDepth)

/-- The section of the procedure. -/
def section? (root : Tree.Node) : Option (List Tree.Node) := root.section? Tree.procedure

/-- The number of top-level steps of a document. -/
def countSteps (root : Tree.Node) : Nat :=
  match section? root with
  | none => 0
  | some siblings =>
    ((stepHeadings siblings).filter fun h => (stepDigits? (headingText h)).isSome).length

end Procedure

end SopDocs
