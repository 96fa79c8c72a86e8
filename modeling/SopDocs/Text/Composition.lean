import SopDocs.Text.CompositionTable
/-!
Canonical composition. A text is taken apart into base characters and marks, the marks of each
character are put into the order of their classes, and what makes up one character is put together
again.
-/

namespace SopDocs.Text

/-- The class of a combining mark; other characters have class 0. -/
def combiningClass (c : Char) : Nat :=
  match combiningRuns.find? fun run => run.1 ≤ c.toNat && c.toNat ≤ run.2.1 with
  | some run => run.2.2
  | none => 0

/-! Syllables of Hangul are made up by calculation. -/

def leadBase : Nat := 0x1100
def vowelBase : Nat := 0x1161
def tailBase : Nat := 0x11A7
def syllableBase : Nat := 0xAC00
def leadCount : Nat := 19
def vowelCount : Nat := 21
def tailCount : Nat := 28

/-- The two parts of a syllable. -/
def syllableParts? (n : Nat) : Option (Nat × Nat) :=
  if syllableBase ≤ n ∧ n < syllableBase + leadCount * vowelCount * tailCount then
    let index := n - syllableBase
    if index % tailCount = 0 then
      some (leadBase + index / tailCount / vowelCount, vowelBase + index / tailCount % vowelCount)
    else some (n - index % tailCount, tailBase + index % tailCount)
  else none

/-- The syllable that two parts make up. -/
def syllable? (a b : Nat) : Option Nat :=
  if leadBase ≤ a ∧ a < leadBase + leadCount ∧ vowelBase ≤ b ∧ b < vowelBase + vowelCount then
    some (syllableBase + ((a - leadBase) * vowelCount + (b - vowelBase)) * tailCount)
  else if syllableBase ≤ a ∧ a < syllableBase + leadCount * vowelCount * tailCount ∧
      (a - syllableBase) % tailCount = 0 ∧ tailBase < b ∧ b < tailBase + tailCount then
    some (a + (b - tailBase))
  else none

/-- The two parts of a character that is made up of them. -/
def parts? (c : Char) : Option (Nat × Nat) :=
  match syllableParts? c.toNat with
  | some parts => some parts
  | none => (composedPairs.find? (·.2.2 == c.toNat)).map fun pair => (pair.1, pair.2.1)

/-- The character that two make up. -/
def composed? (a b : Char) : Option Char :=
  match syllable? a.toNat b.toNat with
  | some n => some (Char.ofNat n)
  | none =>
    (composedPairs.find? fun pair => pair.1 == a.toNat && pair.2.1 == b.toNat).map fun pair =>
      Char.ofNat pair.2.2

/-- Greatest number of times that the first part of a character is made up of parts again. -/
def maxParts : Nat := 8

/-- A character taken apart at most `steps` times. -/
def decomposeChar : Nat → Char → List Char
  | 0, c => [c]
  | steps + 1, c =>
    match parts? c with
    | none => [c]
    | some (a, b) => decomposeChar steps (Char.ofNat a) ++ [Char.ofNat b]

/-- Puts a mark among marks in the order of their classes, after those of its own class. -/
def insertMark (c : Char) : List Char → List Char
  | [] => [c]
  | m :: r => if combiningClass m ≤ combiningClass c then m :: insertMark c r else c :: m :: r

/-- Orders the marks of each character; `marks` are those since the last one. -/
def orderMarks (marks : List Char) : List Char → List Char
  | [] => marks
  | c :: r =>
    if combiningClass c = 0 then marks ++ c :: orderMarks [] r
    else orderMarks (insertMark c marks) r

def decompose (s : List Char) : List Char := orderMarks [] (s.flatMap (decomposeChar maxParts))

/-- Whether nothing stands between a character with the given marks, the last one first, and `c`. -/
def reaches (marks : List Char) (c : Char) : Bool :=
  match marks with
  | [] => true
  | m :: _ => combiningClass m < combiningClass c

/-- Puts a character and what follows it together; `marks` are those that stay, the last one
first. -/
def composeFrom (base : Char) (marks : List Char) : List Char → List Char
  | [] => base :: marks.reverse
  | c :: r =>
    match if reaches marks c then composed? base c else none with
    | some d => composeFrom d marks r
    | none =>
      if combiningClass c = 0 then base :: (marks.reverse ++ composeFrom c [] r)
      else composeFrom base (c :: marks) r

/-- The composed form of a text. -/
def compose (s : List Char) : List Char :=
  let parts := decompose s
  let lead := parts.takeWhile (combiningClass · != 0)
  match parts.drop lead.length with
  | [] => lead
  | c :: r => lead ++ composeFrom c [] r

end SopDocs.Text
