import CodeGraph.Decimal.Binary

namespace CodeGraph.Decimal

/-- Decimal digits and the power of ten of the last one. -/
structure Digits where
  value : Nat
  exponent : Int
deriving Repr, DecidableEq

/-- How many digits a natural number has in base ten. -/
def digitCount (n : Nat) : Nat :=
  (Nat.toDigits 10 n).length

/-- The decimal exponent of the first digit of a quotient that is not zero. -/
def leadingExponent (num den : Nat) : Int :=
  let guess : Int := (digitCount num : Int) - digitCount den
  let (a, b) := inUnits num den guess
  if a < b then guess - 1 else guess

/-- The point of a decimal grid nearest to a number, among those that round to it. The number is
the middle, in quarters of its last binary place, of the interval that rounds to it. -/
def gridPoint? (mantissa : Nat) (exponent : Int) (power : Int) : Option Nat :=
  let scale : Nat × Nat :=
    if exponent < 2 then (1, Nat.pow 2 (2 - exponent).toNat)
    else (Nat.pow 2 (exponent - 2).toNat, 1)
  let below := if mantissa = leastMantissa ∧ exponent ≠ -1074 then 1 else 2
  let (middle, unit) := inUnits (4 * mantissa * scale.1) scale.2 power
  let (low, _) := inUnits ((4 * mantissa - below) * scale.1) scale.2 power
  let (high, _) := inUnits ((4 * mantissa + 2) * scale.1) scale.2 power
  let rounds (d : Nat) : Bool :=
    if mantissa % 2 = 0 then low ≤ d * unit && d * unit ≤ high
    else low < d * unit && d * unit < high
  let floor := middle / unit
  match rounds floor, rounds (floor + 1) with
  | true, true => some (roundQuotient middle unit)
  | true, false => some floor
  | false, true => some (floor + 1)
  | false, false => none

/-- The first grid, from the given count of digits on, that has a point for the number. -/
def shortestFrom (mantissa : Nat) (exponent first : Int) (count : Nat) : Nat → Digits
  | 0 => ⟨0, 0⟩
  | tries + 1 =>
    let power := first - count + 1
    match gridPoint? mantissa exponent power with
    | some d => ⟨d, power⟩
    | none => shortestFrom mantissa exponent first (count + 1) tries

/-- The digits without zeros at their end. -/
def Digits.normalize (digits : Digits) : Digits :=
  let chars := (Nat.toDigits 10 digits.value).reverse
  let zeros := (chars.takeWhile (· == '0')).length
  if digits.value = 0 then ⟨0, 0⟩
  else ⟨digits.value / Nat.pow 10 zeros, digits.exponent + zeros⟩

/-- The shortest digits of the magnitude of a finite number. -/
def shortest (x : Float) : Digits :=
  let (mantissa, exponent) := magnitude x
  if mantissa = 0 then ⟨0, 0⟩
  else
    let (num, den) := quotient x
    (shortestFrom mantissa exponent (leadingExponent num den) 1 17).normalize

end CodeGraph.Decimal
