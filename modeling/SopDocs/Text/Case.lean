import SopDocs.Text.CaseTable
import SopDocs.Text.CodePoints
/-!
Full case mapping. Lower case of a text differs from mapping each character only at a capital sigma,
which becomes the final form at the end of a word.
-/

namespace SopDocs.Text

/-- The image of a code point that the run covers. -/
def CaseRun.image? (run : CaseRun) (n : Nat) : Option Nat :=
  if run.first ≤ n && n ≤ run.last && (n - run.first) % run.step == 0
  then some ((n : Int) + run.shift).toNat
  else none

/-- Looks a character up among the mappings to several, then among the runs. -/
def mapCase (special : List (Nat × List Nat)) (runs : List CaseRun) (c : Char) : List Char :=
  match special.find? (·.1 == c.toNat) with
  | some (_, image) => image.map Char.ofNat
  | none =>
    match runs.findSome? (·.image? c.toNat) with
    | some image => [Char.ofNat image]
    | none => [c]

def lowerChar (c : Char) : List Char :=
  if c.toNat < 128 then [c.toLower] else mapCase lowerSpecial lowerRuns c

def upperChar (c : Char) : List Char :=
  if c.toNat < 128 then [c.toUpper] else mapCase upperSpecial upperRuns c

/-- Whether the first character that the sigma rule does not look through has case. -/
def startsCased (s : List Char) : Bool :=
  match s.dropWhile (inRanges caseIgnorableRanges) with
  | [] => false
  | c :: _ => inRanges casedRanges c

/-- Lower case of a text whose reversed left context is `before`. -/
def lowerAfter (before : List Char) : List Char → List Char
  | [] => []
  | c :: r =>
    (if c = 'Σ' then (if startsCased before && !startsCased r then ['ς'] else ['σ'])
      else lowerChar c) ++ lowerAfter (c :: before) r

def lower (s : List Char) : List Char := lowerAfter [] s

def upper (s : List Char) : List Char := s.flatMap upperChar

def lowered (s : String) : String := String.ofList (lower s.toList)

/-- First character in upper case, each other one in lower case. -/
def capitalize : List Char → List Char
  | [] => []
  | c :: r => upperChar c ++ r.flatMap lowerChar

/-- Equality up to the case of ASCII letters. -/
def eqIgnoringAsciiCase (s t : String) : Bool :=
  s.toList.map Char.toLower == t.toList.map Char.toLower

end SopDocs.Text
