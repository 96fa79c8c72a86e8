import SopDocs.Text.Blank
import SopDocs.Text.Search
import SopDocs.Text.Word
/-!
Versions: numbers separated by dots, with an optional leading letter. A missing component counts as
zero when versions are compared.
-/

namespace SopDocs

structure Version where
  components : List Nat
deriving Inhabited

namespace Version

/-- The greatest number that a component may have. -/
def maxComponent : Nat := UInt64.size - 1

def component? (digits : List Char) : Option Nat :=
  if digits ≠ [] ∧ digits.all Char.isDigit ∧ Text.digitsValue digits ≤ maxComponent
  then some (Text.digitsValue digits)
  else none

/-- The text after an optional letter `v` of either case. -/
def dropLetter : List Char → List Char
  | 'v' :: r => r
  | 'V' :: r => r
  | s => s

def ofChars? (s : List Char) : Option Version :=
  ((Text.pieces (· == '.') (dropLetter (Text.trim s))).mapM component?).map (⟨·⟩)

/-- Reads a version; surrounding white space does not matter. -/
def parse? (raw : String) : Option Version := ofChars? raw.toList

def isValid (raw : String) : Bool := (parse? raw).isSome

def display (v : Version) : String := ".".intercalate (v.components.map toString)

/-- Compares component by component, the shorter list continued by zeros. -/
def compareComponents : List Nat → List Nat → Ordering
  | [], [] => .eq
  | a :: as, [] => (Ord.compare a 0).then (compareComponents as [])
  | [], b :: bs => (Ord.compare 0 b).then (compareComponents [] bs)
  | a :: as, b :: bs => (Ord.compare a b).then (compareComponents as bs)

def compare (v w : Version) : Ordering := compareComponents v.components w.components

/-- Versions that compare equal. -/
def same (v w : Version) : Bool := (v.compare w).isEq

/-- The message for a text that is no version. -/
def invalidMessage (raw : String) : String := s!"invalid version '{raw}'"

/-- A text that is no version, as it was given. -/
structure Invalid where
  raw : String
deriving DecidableEq, Inhabited

def Invalid.message (e : Invalid) : String := invalidMessage e.raw

/-- Reads a version, or gives back the text that is none. -/
def parse (raw : String) : Except Invalid Version :=
  match parse? raw with
  | some v => .ok v
  | none => .error ⟨raw⟩

end Version

end SopDocs
