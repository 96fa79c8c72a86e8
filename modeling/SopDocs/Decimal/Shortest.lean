import SopDocs.Decimal.Binary
/-!
The fewest decimal digits that read back as a given binary magnitude. For 1, 2, … digits the two
decimals next to the value are tried; the first length with a hit wins, the nearer of two hits.
-/

namespace SopDocs.Decimal

/-- `digits * 10 ^ exponent`. -/
structure Digits where
  digits : Nat
  exponent : Int
deriving DecidableEq, Inhabited

/-- The ends of the interval of reals that round to a magnitude, in quarters of its last place, and
whether they belong to it. -/
def roundingInterval (x : Magnitude) : Nat × Nat × Bool :=
  let low := if x.mantissa = Nat.pow 2 (precision - 1) ∧ minExponent < x.exponent
    then 4 * x.mantissa - 1 else 4 * x.mantissa - 2
  (low, 4 * x.mantissa + 2, x.mantissa % 2 == 0)

/-- `10 ^ k` as a ratio. -/
def powerOfTen (k : Int) : Nat × Nat :=
  if 0 ≤ k then (Nat.pow 10 k.toNat, 1) else (1, Nat.pow 10 (-k).toNat)

/-- The least `k` from `start` on with `num / den < 10 ^ k`. -/
def decimalOrderFrom (num den : Nat) : Nat → Int → Int
  | 0, k => k
  | fuel + 1, k =>
    let (a, b) := powerOfTen k
    if num * b < den * a then k else decimalOrderFrom num den fuel (k + 1)

/-- The decimal of the grid with step `10 ^ step` that the interval of `x` holds and that is nearest
to `x`, if there is one. -/
def hitOnGrid? (x : Magnitude) (step : Int) : Option Digits :=
  let (low, high, closed) := roundingInterval x
  let (two, twoDen) := scaledRatio 1 1 (-(x.exponent - 2))
  let (ten, tenDen) := powerOfTen (-step)
  let num := two * ten
  let den := twoDen * tenDen
  let inside (d : Nat) : Bool :=
    if closed then low * num ≤ d * den && d * den ≤ high * num
    else low * num < d * den && d * den < high * num
  let value := 4 * x.mantissa * num
  let below := value / den
  let above := below + 1
  match inside below && 0 < below, inside above with
  | true, true =>
    if 2 * value < (below + above) * den then some ⟨below, step⟩
    else if (below + above) * den < 2 * value then some ⟨above, step⟩
    else some ⟨below + below % 2, step⟩
  | true, false => some ⟨below, step⟩
  | false, true => some ⟨above, step⟩
  | false, false => none

/-- The first hit on the grids with steps `10 ^ step`, `10 ^ (step - 1)`, … -/
def firstHit (x : Magnitude) : Nat → Int → Digits
  | 0, step => ⟨0, step⟩
  | fuel + 1, step => (hitOnGrid? x step).getD (firstHit x fuel (step - 1))

/-- Shortest decimal of a positive magnitude. -/
def shortest (x : Magnitude) : Digits :=
  let (num, den) := x.ratio
  let order := decimalOrderFrom num den 650 (-330)
  firstHit x 18 (order - 1)

/-- Drops trailing zeros of the digits. -/
def Digits.normalized : Nat → Digits → Digits
  | 0, d => d
  | fuel + 1, d =>
    if d.digits ≠ 0 ∧ d.digits % 10 = 0 then Digits.normalized fuel ⟨d.digits / 10, d.exponent + 1⟩
    else d

end SopDocs.Decimal
