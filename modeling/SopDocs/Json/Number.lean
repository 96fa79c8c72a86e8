import SopDocs.Decimal.Shortest
import SopDocs.Json.Value
/-!
Numbers of JSON text. A number without fraction and exponent that fits 64 bits is an integer; any
other one is a binary float made from a 64-bit significand and a power of ten.
-/

namespace SopDocs.Json

open SopDocs.Decimal

def maxUnsigned : Nat := UInt64.size - 1

def minSigned : Int := -(Nat.pow 2 63)

def maxSigned : Int := Nat.pow 2 63 - 1

/-- Greatest power of ten applied in one step. -/
def maxPower : Nat := 308

/-- The integer with the given sign and magnitude; none for a negative zero and beyond 64 bits. -/
def signedInteger? (positive : Bool) (magnitude : Nat) : Option Int :=
  if positive then some magnitude
  else
    let n : Int := -(magnitude : Int)
    if minSigned ≤ n ∧ n < 0 then some n else none

/-- Divides by 10 ^ 308 until the rest of a negative exponent is in reach of one step. -/
def lowerBy : Nat → Magnitude → Nat → Option (Magnitude × Nat)
  | 0, x, _ => some (x, 0)
  | fuel + 1, x, k =>
    if k ≤ maxPower then some (x, k)
    else if x.mantissa = 0 then some (x, 0)
    else do
      let y ← x.div (← nearest (Nat.pow 10 maxPower) 1)
      lowerBy fuel y (k - maxPower)

/-- `significand * 10 ^ exponent`, rounded after each step; none beyond the greatest float. -/
def floatOfParts (positive : Bool) (significand : Nat) (exponent : Int) : Option Binary := do
  let x ← nearest significand 1
  let y ←
    if 0 ≤ exponent then
      if exponent.toNat ≤ maxPower then x.mul (← nearest (Nat.pow 10 exponent.toNat) 1)
      else if x.mantissa = 0 then some x
      else none
    else do
      let (x, k) ← lowerBy 8 x (-exponent).toNat
      x.div (← nearest (Nat.pow 10 k) 1)
  return ⟨!positive, y⟩

/-- How floats are written: digits positionally for decimal orders from `fixedFrom` to `fixedTo`,
with a fraction of `0` if integral, otherwise one digit, a point, the rest, and a signed
exponent. -/
structure FloatStyle where
  fixedFrom : Int
  fixedTo : Int
  exponentWidth : Nat

/-- The style of written numbers. -/
def floatStyle : FloatStyle := ⟨-4, 16, 2⟩

def zeros (n : Nat) : List Char := List.replicate n '0'

/-- The exponent with its sign, padded with zeros. -/
def exponentText (style : FloatStyle) (e : Int) : List Char :=
  let ds := Nat.toDigits 10 e.natAbs
  (if e < 0 then '-' else '+') :: (zeros (style.exponentWidth - ds.length) ++ ds)

def magnitudeText (style : FloatStyle) (x : Magnitude) : List Char :=
  if x.mantissa = 0 then "0.0".toList
  else
    let d := (shortest x).normalized 400
    let ds := Nat.toDigits 10 d.digits
    let order : Int := ds.length + d.exponent
    if style.fixedFrom ≤ order ∧ order ≤ style.fixedTo then
      if 0 ≤ d.exponent then ds ++ zeros d.exponent.toNat ++ ".0".toList
      else if 0 < order then ds.take order.toNat ++ '.' :: ds.drop order.toNat
      else "0.".toList ++ zeros (-order).toNat ++ ds
    else
      match ds with
      | [] => []
      | [c] => c :: 'e' :: exponentText style (order - 1)
      | c :: r => c :: '.' :: (r ++ 'e' :: exponentText style (order - 1))

def floatText (x : Binary) : String :=
  String.ofList ((if x.negative then ['-'] else []) ++ magnitudeText floatStyle x.magnitude)

/-- Whether a float is a whole number. -/
def isWhole (x : Binary) : Bool := x.magnitude.isIntegral

/-- Whether a float is less than a natural number; a negative zero compares like zero. -/
def isBelow (x : Binary) (bound : Nat) : Bool :=
  (x.negative && x.magnitude.mantissa != 0) ||
    decide (x.magnitude.ratio.1 < bound * x.magnitude.ratio.2)

end SopDocs.Json
