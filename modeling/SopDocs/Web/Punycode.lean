/-!
Labels of domains in ASCII letters and digits. The ASCII characters of a label come first; each
other one is a number that tells how far to go on, through the values of characters and the
positions of the label. The numbers have digits of varying weight, which adapts to their size.
-/

namespace SopDocs.Web.Punycode

def base : Nat := 36
def tMin : Nat := 1
def tMax : Nat := 26
def skew : Nat := 38
def damp : Nat := 700
def firstBias : Nat := 72
def firstValue : Nat := 0x80

/-- Divides a number until it is small: the remainder and what the divisions add to the bias. -/
def shrink : Nat → Nat → Nat → Nat × Nat
  | 0, number, added => (number, added)
  | steps + 1, number, added =>
    if (base - tMin) * tMax / 2 < number then shrink steps (number / (base - tMin)) (added + base)
    else (number, added)

/-- The bias after a number; `count` characters are there then. -/
def adapt (number count : Nat) (first : Bool) : Nat :=
  let number := if first then number / damp else number / 2
  let (rest, added) := shrink 64 (number + number / count) 0
  added + (base - tMin + 1) * rest / (rest + skew)

/-- The least weight of the digit at a position, counted in steps of the base. -/
def threshold (bias position : Nat) : Nat := min tMax (max tMin (position - bias))

def digit (n : Nat) : Char := if n < 26 then Char.ofNat (97 + n) else Char.ofNat (22 + n)

def digitValue? (c : Char) : Option Nat :=
  if 'a' ≤ c ∧ c ≤ 'z' then some (c.toNat - 97)
  else if '0' ≤ c ∧ c ≤ '9' then some (c.toNat - 22)
  else none

/-- The digits of a number, from a position on. -/
def numberText (bias : Nat) : Nat → Nat → Nat → List Char
  | 0, _, number => [digit number]
  | steps + 1, position, number =>
    let t := threshold bias position
    if number < t then [digit number]
    else digit (t + (number - t) % (base - t)) ::
      numberText bias steps (position + base) ((number - t) / (base - t))

structure Writer where
  /-- The distance since the last number. -/
  distance : Nat
  bias : Nat
  /-- Characters that are written. -/
  count : Nat
  text : List Char

/-- Goes past one character of the label while characters of a value are written. -/
def Writer.pass (value basic : Nat) (w : Writer) (c : Char) : Writer :=
  if c.toNat < value then { w with distance := w.distance + 1 }
  else if c.toNat = value then
    { distance := 0
      bias := adapt w.distance (w.count + 1) (w.count == basic)
      count := w.count + 1
      text := w.text ++ numberText w.bias 64 base w.distance }
  else w

/-- Writes the characters of each value in turn; `last` is the value before. -/
def writeValues (label : List Char) (basic : Nat) : Nat → Writer → List Nat → Writer
  | _, w, [] => w
  | last, w, value :: rest =>
    let w := { w with distance := w.distance + (value - last) * (w.count + 1) }
    let w := label.foldl (Writer.pass value basic) w
    writeValues label basic (value + 1) { w with distance := w.distance + 1 } rest

/-- A value among ascending values, each once. -/
def insertValue (n : Nat) : List Nat → List Nat
  | [] => [n]
  | m :: r => if n < m then n :: m :: r else if n = m then m :: r else m :: insertValue n r

/-- The values beyond ASCII in a label, in ascending order. -/
def valuesOf (label : List Char) : List Nat :=
  (label.filter (firstValue ≤ ·.toNat)).foldl (fun values c => insertValue c.toNat values) []

def encode (label : List Char) : List Char :=
  let ascii := label.filter (·.toNat < firstValue)
  let start := if ascii = [] then [] else ascii ++ ['-']
  let w : Writer := ⟨0, firstBias, ascii.length, []⟩
  start ++ (writeValues label ascii.length firstValue w (valuesOf label)).text

/-- Reads a number from a position on; `weight` is that of its next digit. -/
def number? (bias : Nat) : Nat → Nat → Nat → List Char → Option (Nat × List Char)
  | _, _, _, [] => none
  | position, weight, sum, c :: r =>
    match digitValue? c with
    | none => none
    | some d =>
      let t := threshold bias position
      let sum := sum + d * weight
      if 2 ^ 32 ≤ sum then none
      else if d < t then some (sum, r)
      else number? bias (position + base) (weight * (base - t)) sum r

def isScalar (n : Nat) : Bool := n < 0xD800 || (0xDFFF < n && n < 0x110000)

/-- Reads numbers and puts their characters into a label. -/
def readNumbers : Nat → Nat → Nat → Bool → List Char → List Char → Option (List Char)
  | _, _, _, _, label, [] => some label
  | 0, _, _, _, _, _ :: _ => none
  | steps + 1, bias, state, first, label, s =>
    match number? bias base 1 0 s with
    | none => none
    | some (number, r) =>
      let size := label.length + 1
      let state := state + number
      let value := state / size
      if !isScalar value then none
      else
        let position := state % size
        readNumbers steps (adapt number size first) (value * (size + 1) + position + 1) false
          (label.take position ++ Char.ofNat value :: label.drop position) r

/-- The part before the last hyphen, if it is not empty, and the rest. -/
def splitBasic (s : List Char) : List Char × List Char :=
  match s.reverse.dropWhile (· != '-') with
  | _ :: c :: front => ((c :: front).reverse, s.drop (front.length + 2))
  | _ => ([], s)

def decode? (s : List Char) : Option (List Char) :=
  let (ascii, numbers) := splitBasic s
  readNumbers s.length firstBias (firstValue * (ascii.length + 1)) true ascii numbers

end SopDocs.Web.Punycode
