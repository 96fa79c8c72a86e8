/-!
Binary floating point with 53 significant bits, as exact integers. A magnitude is a mantissa times a
power of two; `nearest` rounds a positive ratio to the closest one, a tie going to the even
mantissa.
-/

namespace SopDocs.Decimal

/-- The magnitude `mantissa * 2 ^ exponent`. -/
structure Magnitude where
  mantissa : Nat
  exponent : Int
deriving DecidableEq, Inhabited

/-- A magnitude with a sign; zero has both signs. -/
structure Binary where
  negative : Bool
  magnitude : Magnitude
deriving DecidableEq, Inhabited

/-- Least exponent of a magnitude. -/
def minExponent : Int := -1074

/-- Greatest exponent of a magnitude. -/
def maxExponent : Int := 971

/-- Significant bits of a mantissa. -/
def precision : Nat := 53

/-- `num / den` with the power of two moved to whichever side keeps both natural. -/
def scaledRatio (num den : Nat) (exponent : Int) : Nat × Nat :=
  if 0 ≤ exponent then (num, den * Nat.pow 2 exponent.toNat)
  else (num * Nat.pow 2 (-exponent).toNat, den)

/-- The quotient rounded to nearest, a tie to even. -/
def roundedQuotient (num den : Nat) : Nat :=
  let q := num / den
  let twice := 2 * (num % den)
  if twice < den then q
  else if den < twice then q + 1
  else q + q % 2

/-- The greatest `k` with `2 ^ k ≤ num / den`, for positive `num` and `den`. -/
def binaryOrder (num den : Nat) : Int :=
  let k : Int := (num.log2 : Int) - (den.log2 : Int)
  let (n, d) := scaledRatio num den k
  if d ≤ n then k else k - 1

/-- The magnitude closest to `num / den`; none if it is beyond the greatest one. -/
def nearest (num den : Nat) : Option Magnitude :=
  if num = 0 then some ⟨0, minExponent⟩
  else
    let exponent := max (binaryOrder num den - (precision - 1 : Nat)) minExponent
    let (n, d) := scaledRatio num den exponent
    let m := roundedQuotient n d
    let (m, exponent) :=
      if m = Nat.pow 2 precision then (Nat.pow 2 (precision - 1), exponent + 1) else (m, exponent)
    if maxExponent < exponent then none else some ⟨m, exponent⟩

/-- A magnitude as a ratio of natural numbers. -/
def Magnitude.ratio (x : Magnitude) : Nat × Nat :=
  if 0 ≤ x.exponent then (x.mantissa * Nat.pow 2 x.exponent.toNat, 1)
  else (x.mantissa, Nat.pow 2 (-x.exponent).toNat)

def Magnitude.mul (x y : Magnitude) : Option Magnitude :=
  nearest (x.ratio.1 * y.ratio.1) (x.ratio.2 * y.ratio.2)

def Magnitude.div (x y : Magnitude) : Option Magnitude :=
  nearest (x.ratio.1 * y.ratio.2) (x.ratio.2 * y.ratio.1)

/-- Whether the magnitude is a natural number. -/
def Magnitude.isIntegral (x : Magnitude) : Bool := x.ratio.1 % x.ratio.2 == 0

end SopDocs.Decimal
