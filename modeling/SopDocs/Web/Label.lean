import SopDocs.Text.CodePoints
import SopDocs.Web.LabelTable
/-!
Which labels a domain may have besides those in ASCII: joiners stand between letters that they join,
and where letters are written from right to left each label has one direction.
-/

namespace SopDocs.Web

open Text (inRanges)

def nonJoiner : Char := '\u200C'

def joiner : Char := '\u200D'

/-- Whether the character before, seen through transparent ones, joins with the next one. -/
def joinsNext (before : List Char) : Bool :=
  match before.dropWhile (inRanges transparentRanges) with
  | [] => false
  | c :: _ => inRanges joiningLeftRanges c

/-- Whether the character after, seen through transparent ones, joins with the one before. -/
def joinsPrevious (after : List Char) : Bool :=
  match after.dropWhile (inRanges transparentRanges) with
  | [] => false
  | c :: _ => inRanges joiningRightRanges c

/-- Whether all joiners of a label may stand where they do; `before` is what precedes, the last one
first. -/
def joinersFit (before : List Char) : List Char → Bool
  | [] => true
  | c :: r =>
    (if c = joiner then afterVirama before
      else if c = nonJoiner then afterVirama before || (joinsNext before && joinsPrevious r)
      else true) && joinersFit (c :: before) r
where
  afterVirama : List Char → Bool
    | [] => false
    | v :: _ => inRanges viramaRanges v

inductive Direction where
  | leftToRight
  | rightToLeft
  | arabicNumber
  | europeanNumber
  | nonspacing
  | neutral
deriving DecidableEq, Inhabited

def directionOf (c : Char) : Direction :=
  if inRanges rightToLeftRanges c then .rightToLeft
  else if inRanges arabicNumberRanges c then .arabicNumber
  else if inRanges europeanNumberRanges c then .europeanNumber
  else if inRanges nonspacingRanges c then .nonspacing
  else if inRanges neutralRanges c then .neutral
  else .leftToRight

/-- Whether a label makes its domain one with letters from right to left. -/
def hasRightToLeft (label : List Char) : Bool :=
  label.any fun c => directionOf c = .rightToLeft || directionOf c = .arabicNumber

/-- The direction of the last character that has one of its own. -/
def lastDirection? (directions : List Direction) : Option Direction :=
  (directions.reverse.dropWhile (· = .nonspacing)).head?

/-- Whether a label has one direction. -/
def hasOneDirection (label : List Char) : Bool :=
  let directions := label.map directionOf
  match directions with
  | [] => true
  | .leftToRight :: _ =>
    directions.all (fun d => d ≠ .rightToLeft && d ≠ .arabicNumber) &&
      (lastDirection? directions == some .leftToRight ||
        lastDirection? directions == some .europeanNumber)
  | .rightToLeft :: _ =>
    directions.all (· ≠ .leftToRight) &&
      (lastDirection? directions == some .rightToLeft ||
        lastDirection? directions == some .europeanNumber ||
        lastDirection? directions == some .arabicNumber) &&
      !(directions.contains .europeanNumber && directions.contains .arabicNumber)
  | _ => false

def startsWithMark (label : List Char) : Bool :=
  match label with
  | [] => false
  | c :: _ => inRanges markRanges c

end SopDocs.Web
