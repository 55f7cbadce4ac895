/-!
# Double precision numbers

Numbers with a fraction or an exponent are held as finite doubles, in exact integer arithmetic.
`Decimal.toBinary64?` gives the double nearest to a decimal numeral, ties to the even neighbour, and
`Binary64.shortest` gives back the decimal that a double is written as: of the coarsest decimal grid
that has a point among the numbers that round to the double, the point nearest to it.
-/

namespace AgentOperator

/-- The decimal number `± digits · 10 ^ exponent`. -/
structure Decimal where
  negative : Bool
  digits : Nat
  exponent : Int
deriving DecidableEq, Repr

/-- The finite double `± mantissa · 2 ^ exponent`, the mantissa having at most 53 bits. -/
structure Binary64 where
  negative : Bool
  mantissa : Nat
  exponent : Int
deriving DecidableEq, Repr

/-- The quotient of two numbers rounded to the nearest integer, ties to even. -/
def roundDiv (numerator denominator : Nat) : Nat :=
  let quotient := numerator / denominator
  let twice := 2 * (numerator % denominator)
  if twice > denominator || (twice = denominator && quotient % 2 = 1) then quotient + 1
  else quotient

/-- The fraction `numerator · base ^ exponent / denominator` as a pair of natural numbers. -/
def scaleFraction (numerator denominator base : Nat) (exponent : Int) : Nat × Nat :=
  match exponent with
  | .ofNat n => (numerator * Nat.pow base n, denominator)
  | .negSucc n => (numerator, denominator * Nat.pow base (n + 1))

namespace Binary64

/-- The leading bit of a mantissa with all its 53 bits. -/
def leadingBit : Nat := 0x10000000000000

/-- What all mantissas are below. -/
def mantissaBound : Nat := 0x20000000000000

/-- The least exponent of a double; all subnormal numbers have it. -/
def minExponent : Int := -1074

/-- The double nearest to a positive fraction, or nothing if the fraction is too large for one. -/
def ofFraction? (negative : Bool) (numerator denominator : Nat) : Option Binary64 :=
  if numerator = 0 then some ⟨negative, 0, minExponent⟩ else
  let magnitude : Int := Nat.log2 numerator - Nat.log2 denominator
  let quotientAt (exponent : Int) : Nat × Nat := scaleFraction numerator denominator 2 (-exponent)
  let fine := max (magnitude - 53) minExponent
  let fraction := quotientAt fine
  let exponent := if fraction.1 ≥ fraction.2 * mantissaBound then fine + 1 else fine
  let fraction := quotientAt exponent
  let mantissa := roundDiv fraction.1 fraction.2
  let rounded : Binary64 :=
    if mantissa = mantissaBound then ⟨negative, leadingBit, exponent + 1⟩
    else ⟨negative, mantissa, exponent⟩
  if rounded.exponent > 971 then none else some rounded

/-- The double nearest to a product, or nothing if the product is too large for one. -/
def mul? (x y : Binary64) : Option Binary64 :=
  let product := scaleFraction (x.mantissa * y.mantissa) 1 2 (x.exponent + y.exponent)
  ofFraction? (x.negative != y.negative) product.1 product.2

/-- The double nearest to a quotient, or nothing if the quotient is too large for one. There is no
quotient by zero. -/
def div? (x y : Binary64) : Option Binary64 :=
  if y.mantissa = 0 then none
  else
    let quotient := scaleFraction x.mantissa y.mantissa 2 (x.exponent - y.exponent)
    ofFraction? (x.negative != y.negative) quotient.1 quotient.2

/-- The exact value of the size of a double, as a fraction. -/
def fraction (x : Binary64) : Nat × Nat := scaleFraction x.mantissa 1 2 x.exponent

/-- Whether a double is at most another one. -/
def le (x y : Binary64) : Bool :=
  let sizeLe (a b : Binary64) : Bool := a.fraction.1 * b.fraction.2 ≤ b.fraction.1 * a.fraction.2
  match x.negative, y.negative with
  | false, false => sizeLe x y
  | true, true => sizeLe y x
  | true, false => true
  | false, true => x.mantissa = 0 && y.mantissa = 0

/-- The numbers that round to a double lie between two bounds: half a step below and above, the
step below a power of two being half as long. The bounds are given in quarters of a step. -/
def roundingBounds (x : Binary64) : Nat × Nat :=
  let below := if x.mantissa = leadingBit && x.exponent > minExponent then 1 else 2
  (4 * x.mantissa - below, 4 * x.mantissa + 2)

/-- Whether `n · 10 ^ power` rounds to a double that is not zero. The bounds themselves do when
the mantissa is even. -/
def roundsHere (x : Binary64) (n : Nat) (power : Int) : Bool :=
  let (low, high) := x.roundingBounds
  let point := scaleFraction n 1 10 power
  let lowBound := scaleFraction low 4 2 x.exponent
  let highBound := scaleFraction high 4 2 x.exponent
  let fromLow := lowBound.1 * point.2
  let toLow := point.1 * lowBound.2
  let fromHigh := point.1 * highBound.2
  let toHigh := highBound.1 * point.2
  if x.mantissa % 2 = 0 then fromLow ≤ toLow && fromHigh ≤ toHigh
  else fromLow < toLow && fromHigh < toHigh

/-- The point of the grid of multiples of `10 ^ power` that a double would be written as: of the
two neighbours of the double that round to it, the nearer one, and the even one if both are equally
near. -/
def gridPoint? (x : Binary64) (power : Int) : Option Nat :=
  let value := scaleFraction x.fraction.1 x.fraction.2 10 (-power)
  let floor := value.1 / value.2
  let twiceRest := 2 * (value.1 % value.2)
  let nearFloor := twiceRest < value.2 || (twiceRest = value.2 && floor % 2 = 0)
  match roundsHere x floor power, roundsHere x (floor + 1) power with
  | true, true => some (if nearFloor then floor else floor + 1)
  | true, false => some floor
  | false, true => some (floor + 1)
  | false, false => none

/-- The shortest decimal that rounds to a double, and of those the one nearest to it. -/
def shortest (x : Binary64) : Decimal :=
  if x.mantissa = 0 then ⟨x.negative, 0, 0⟩ else
  let found := (List.range 634).findSome? fun (step : Nat) =>
    let power : Int := 309 - (step : Int)
    (x.gridPoint? power).map fun digits => (digits, power)
  match found with
  | some (digits, power) => ⟨x.negative, digits, power⟩
  | none => ⟨x.negative, 0, 0⟩

end Binary64

namespace Decimal

/-- The double nearest to a decimal number, or nothing if the number is too large for one. -/
def toBinary64? (d : Decimal) : Option Binary64 :=
  let size : Int := (toString d.digits).length + d.exponent
  if d.digits = 0 || size < -330 then some ⟨d.negative, 0, Binary64.minExponent⟩
  else if size > 310 then none
  else
    let (numerator, denominator) := scaleFraction d.digits 1 10 d.exponent
    Binary64.ofFraction? d.negative numerator denominator

/-- A decimal number written without an exponent. A number without a fraction is written without
a point. -/
def positional (d : Decimal) : String :=
  let digits := (toString d.digits).toList
  let body : List Char :=
    match d.exponent with
    | .ofNat n => if d.digits = 0 then ['0'] else digits ++ List.replicate n '0'
    | .negSucc n =>
      let places := n + 1
      let padded := List.replicate (places + 1 - digits.length) '0' ++ digits
      padded.take (padded.length - places) ++ ['.'] ++ padded.drop (padded.length - places)
  String.ofList (if d.negative then '-' :: body else body)

/-- The place of the first digit: zero for units, one for tens, minus one for tenths. -/
def firstPlace (d : Decimal) : Int := (toString d.digits).length + d.exponent - 1

/-- A decimal number written with a point behind its first digit, unless there is no other one, and
with an exponent that has a sign. -/
def scientific (d : Decimal) : String :=
  let mantissa : List Char :=
    match (toString d.digits).toList with
    | first :: second :: rest => first :: '.' :: second :: rest
    | digits => digits
  let sign := if d.firstPlace < 0 then '-' else '+'
  let body := mantissa ++ ['e', sign] ++ (toString d.firstPlace.natAbs).toList
  String.ofList (if d.negative then '-' :: body else body)

end Decimal

/-- The text of a double, with no more digits than tell it apart from its neighbours. Numbers from a
hundred thousandth up to ten to the sixteenth are written without an exponent and with at least one
digit behind the point. -/
def Binary64.text (x : Binary64) : String :=
  let d := x.shortest
  if -5 ≤ d.firstPlace && d.firstPlace ≤ 15 then
    if d.exponent < 0 then d.positional else d.positional ++ ".0"
  else d.scientific

end AgentOperator
