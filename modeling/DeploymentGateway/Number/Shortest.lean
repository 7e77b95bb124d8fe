import DeploymentGateway.Number.Binary64
import DeploymentGateway.Text.Letters
/-!
The shortest decimal form of a floating point number. Among the decimals that round back to the
number those with the fewest digits are taken, and of these the nearest. The number of digits is
found by trying grids of one to seventeen digits: a grid has a point in the interval of reals that
round to the number exactly if one of the two grid points around the number lies in it.
-/

set_option autoImplicit false

namespace DeploymentGateway.Number

/-- A decimal `digits * 10 ^ exponent`. -/
structure Decimal where
  digits : Nat
  exponent : Int
  deriving DecidableEq

namespace Binary64

/-- Twice the distances from the number to the ends of the interval of reals that round to it, in
units of half the spacing at its significand: the spacing below a power of two is half as wide. -/
private def lowerGap (x : Binary64) : Nat :=
  if x.significand = leastFullSignificand ∧ leastExponent < x.exponent then 1 else 2

/-- A decimal rounds back to the number: it lies between the ends of its interval, which belong to
the interval where the significand is even. All are compared as multiples of a quarter spacing. -/
private def roundsTo (x : Binary64) (candidate : Decimal) : Bool :=
  let (numerator, denominator) := match candidate.exponent with
    | .ofNat n => (candidate.digits * Nat.pow 10 n, 1)
    | .negSucc n => (candidate.digits, Nat.pow 10 (n + 1))
  let (n, d) := scale numerator denominator (2 - x.exponent)
  let low := (4 * x.significand - lowerGap x) * d
  let high := (4 * x.significand + 2) * d
  if x.significand % 2 = 0 then low ≤ n && n ≤ high else low < n && n < high

/-- The greatest multiple of `10 ^ exponent` that is at most the magnitude, and whether the next
multiple is nearer; a tie goes to the even multiple. -/
private def gridBelow (x : Binary64) (exponent : Int) : Nat × Bool :=
  let (numerator, denominator) := x.ratio
  let (n, d) := match exponent with
    | .ofNat k => (numerator, denominator * Nat.pow 10 k)
    | .negSucc k => (numerator * Nat.pow 10 (k + 1), denominator)
  let below := n / d
  let twice := 2 * (n % d)
  (below, d < twice || (twice == d && below % 2 == 1))

/-- The nearest decimal on the grid `10 ^ exponent` that rounds back to the number, if any does. -/
private def onGrid? (x : Binary64) (exponent : Int) : Option Decimal :=
  let (below, upperIsNearer) := gridBelow x exponent
  let lower : Decimal := ⟨below, exponent⟩
  let upper : Decimal := ⟨below + 1, exponent⟩
  let (first, second) := if upperIsNearer then (upper, lower) else (lower, upper)
  if roundsTo x first then some first
  else if roundsTo x second then some second
  else none

/-- The decimal exponent of the leading digit of a positive magnitude. -/
private def leadingExponent (x : Binary64) : Int :=
  let (n, d) := x.ratio
  if d ≤ n then ((Nat.toDigits 10 (n / d)).length : Int) - 1
  else
    -- the quotient the other way has as many digits as there are places before the leading digit
    let k := (Nat.toDigits 10 (d / n)).length
    if d ≤ n * Nat.pow 10 (k - 1) then -((k : Int) - 1) else -(k : Int)

/-- The first grid that gives a decimal, from the coarsest on. -/
private def search (x : Binary64) (leading : Int) : Nat → Nat → Option Decimal
  | 0, _ => none
  | fuel + 1, places =>
    match onGrid? x (leading + 1 - places) with
    | some found => some found
    | none => search x leading fuel (places + 1)

/-- The same decimal without zeros at its end. -/
private def withoutTrailingZeros (x : Decimal) : Nat → Decimal
  | 0 => x
  | fuel + 1 =>
    if x.digits ≠ 0 ∧ x.digits % 10 = 0 then
      withoutTrailingZeros ⟨x.digits / 10, x.exponent + 1⟩ fuel
    else x

/-- The shortest decimal that rounds back to the magnitude of the number; seventeen digits always
suffice. -/
def shortest (x : Binary64) : Decimal :=
  if x.isZero then ⟨0, 0⟩
  else
    let found := (search x (leadingExponent x) 17 1).getD ⟨0, 0⟩
    withoutTrailingZeros found 400

/-- The text of a number. It is written positionally, with a digit on both sides of the point, where
the exponent of the leading digit is from -5 to 15, and otherwise with an exponent that always has a
sign. -/
def text (x : Binary64) : String :=
  let sign := if x.negative then "-" else ""
  if x.isZero then sign ++ "0.0"
  else
    let shown := x.shortest
    let digits := Nat.toDigits 10 shown.digits
    let leading : Int := shown.exponent + digits.length - 1
    let body : List Char :=
      if -5 ≤ leading ∧ leading < 16 then
        match leading with
        | .negSucc k => '0' :: '.' :: (List.replicate k '0' ++ digits)
        | .ofNat k =>
          if digits.length ≤ k + 1 then
            digits ++ List.replicate (k + 1 - digits.length) '0' ++ ['.', '0']
          else digits.take (k + 1) ++ '.' :: digits.drop (k + 1)
      else
        let mantissa := match digits with
          | [] => []
          | [d] => [d]
          | d :: more => d :: '.' :: more
        let mark := if leading < 0 then ['e', '-'] else ['e', '+']
        mantissa ++ mark ++ Nat.toDigits 10 leading.natAbs
    sign ++ String.ofList body

end Binary64

end DeploymentGateway.Number
