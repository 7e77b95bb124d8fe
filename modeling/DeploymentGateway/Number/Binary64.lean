/-!
Finite binary floating point numbers of 64 bits, as a significand of at most 53 bits times a power
of two, with correct rounding of ratios. All arithmetic is exact arithmetic on natural numbers
followed by one rounding to nearest, ties to the even significand.
-/

set_option autoImplicit false

namespace DeploymentGateway.Number

/-- The number `significand * 2 ^ exponent`, negated where `negative` says so. In normal form the
significand has 53 bits, or fewer where the exponent is the least one. -/
structure Binary64 where
  negative : Bool
  significand : Nat
  exponent : Int
  deriving DecidableEq

namespace Binary64

/-- The least exponent, at which significands may be short. -/
def leastExponent : Int := -1074

/-- The exponent of the greatest finite numbers. -/
def greatestExponent : Int := 971

/-- The least significand of 53 bits: two to the power 52. -/
def leastFullSignificand : Nat := 4503599627370496

/-- Zero, with a sign. -/
def zero (negative : Bool) : Binary64 :=
  ⟨negative, 0, leastExponent⟩

/-- A quotient rounded to the nearest integer, a half to the even one. -/
def divideToEven (numerator denominator : Nat) : Nat :=
  let quotient := numerator / denominator
  let twice := 2 * (numerator % denominator)
  if twice < denominator then quotient
  else if denominator < twice then quotient + 1
  else quotient + quotient % 2

/-- A ratio scaled by a power of two, as numerator and denominator. -/
def scale (numerator denominator : Nat) (power : Int) : Nat × Nat :=
  match power with
  | .ofNat n => (numerator * Nat.pow 2 n, denominator)
  | .negSucc n => (numerator, denominator * Nat.pow 2 (n + 1))

/-- The exponent at which a positive ratio has a significand of 53 bits, or the least exponent. -/
def exponentOfRatio (numerator denominator : Nat) : Int :=
  let estimate : Int := (Nat.log2 numerator : Int) - Nat.log2 denominator
  let (n, d) := scale numerator denominator (-estimate)
  let magnitude := if n < d then estimate - 1 else estimate
  max (magnitude - 52) leastExponent

/-- The number nearest to a ratio, ties to the even significand; none where it is too large. -/
def ofRatio? (negative : Bool) (numerator denominator : Nat) : Option Binary64 :=
  if numerator = 0 then some (zero negative)
  else
    let exponent := exponentOfRatio numerator denominator
    let (n, d) := scale numerator denominator (-exponent)
    let rounded := divideToEven n d
    let (significand, exponent) :=
      if rounded = 2 * leastFullSignificand then (leastFullSignificand, exponent + 1)
      else (rounded, exponent)
    if significand = 0 then some (zero negative)
    else if greatestExponent < exponent then none
    else some ⟨negative, significand, exponent⟩

/-- The magnitude of a number as an exact ratio. -/
def ratio (x : Binary64) : Nat × Nat :=
  scale x.significand 1 x.exponent

/-- The magnitude is zero. -/
def isZero (x : Binary64) : Bool :=
  x.significand == 0

/-- The product of two magnitudes, rounded, with the sign of the first. -/
def times? (x y : Binary64) : Option Binary64 :=
  ofRatio? x.negative (x.ratio.1 * y.ratio.1) (x.ratio.2 * y.ratio.2)

/-- The quotient of two magnitudes, rounded, with the sign of the first. -/
def over? (x y : Binary64) : Option Binary64 :=
  ofRatio? x.negative (x.ratio.1 * y.ratio.2) (x.ratio.2 * y.ratio.1)

/-- The power of ten, rounded. -/
def powerOfTen? (exponent : Nat) : Option Binary64 :=
  ofRatio? false (Nat.pow 10 exponent) 1

/-- The greatest power of ten that is a finite number. -/
def greatestPowerOfTen : Nat := 308

/-- A magnitude divided by a power of ten, in steps of the greatest power of ten; it stays zero
once it is zero. -/
def shrink? (x : Binary64) (exponent : Nat) : Option Binary64 :=
  if exponent ≤ greatestPowerOfTen then do
    x.over? (← powerOfTen? exponent)
  else if x.isZero then some x
  else do
    shrink? (← x.over? (← powerOfTen? greatestPowerOfTen)) (exponent - greatestPowerOfTen)
termination_by exponent
decreasing_by
  simp only [greatestPowerOfTen] at *
  omega

/-- The number read from a significand of at most 64 bits and a decimal exponent. It is rounded
twice: the significand on its own, and then its product or quotient with a rounded power of ten.
None where the result is too large. -/
def ofDecimal? (negative : Bool) (significand : Nat) (exponent : Int) : Option Binary64 := do
  let leading ← ofRatio? negative significand 1
  match exponent with
  | .ofNat n =>
    if leading.isZero && greatestPowerOfTen < n then some leading
    else if greatestPowerOfTen < n then none
    else leading.times? (← powerOfTen? n)
  | .negSucc n => leading.shrink? (n + 1)

end Binary64

end DeploymentGateway.Number
