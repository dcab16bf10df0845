namespace CodeGraph.Decimal

/-- The first mantissa of a normal number. -/
def leastMantissa : Nat := Nat.pow 2 52

/-- The value of the sign bit. -/
def signBit : Nat := Nat.pow 2 63

/-- Whether the sign bit is set, also for negative zero. -/
def isNegative (x : Float) : Bool :=
  x.toBits.toNat / signBit == 1

/-- The magnitude of a finite number as mantissa and binary exponent. -/
def magnitude (x : Float) : Nat × Int :=
  let bits : Nat := x.toBits.toNat % signBit
  let fraction := bits % leastMantissa
  let exponent : Nat := bits / leastMantissa
  if exponent = 0 then (fraction, -1074) else (fraction + leastMantissa, (exponent : Int) - 1075)

/-- The magnitude of a finite number as a quotient of natural numbers. -/
def quotient (x : Float) : Nat × Nat :=
  let (mantissa, exponent) := magnitude x
  if exponent < 0 then (mantissa, Nat.pow 2 (-exponent).toNat)
  else (mantissa * Nat.pow 2 exponent.toNat, 1)

/-- The integer nearest to a quotient. A half goes to the even neighbour. -/
def roundQuotient (num den : Nat) : Nat :=
  let floor := num / den
  let rest := 2 * (num % den)
  if rest < den then floor
  else if rest = den ∧ floor % 2 = 0 then floor
  else floor + 1

/-- The integer nearest to the magnitude of a finite number. A half goes up. -/
def roundUp (x : Float) : Nat :=
  let (num, den) := quotient x
  (2 * num + den) / (2 * den)

/-- The integer nearest to a finite number. A half goes to the even neighbour. -/
def round (x : Float) : Int :=
  let (num, den) := quotient x
  let nearest : Int := roundQuotient num den
  if isNegative x then -nearest else nearest

/-- The integer part of a finite number. -/
def truncate (x : Float) : Int :=
  let (num, den) := quotient x
  if isNegative x then -((num / den : Nat) : Int) else ((num / den : Nat) : Int)

/-- Whether a number is finite and has no fractional part. -/
def isIntegral (x : Float) : Bool :=
  let (num, den) := quotient x
  x.isFinite && num % den == 0

/-- The bits of infinity. -/
def infinityBits : Nat := 2047 * leastMantissa

/-- A quotient in units of a power of two, as a quotient again. -/
def inBinaryUnits (num den : Nat) (exponent : Int) : Nat × Nat :=
  if exponent < 0 then (num * Nat.pow 2 (-exponent).toNat, den)
  else (num, den * Nat.pow 2 exponent.toNat)

/-- A quotient in units of a power of ten, as a quotient again. -/
def inUnits (num den : Nat) (power : Int) : Nat × Nat :=
  if power < 0 then (num * Nat.pow 10 (-power).toNat, den)
  else (num, den * Nat.pow 10 power.toNat)

/-- The power of two that is the last place of the floating point numbers nearest to a quotient. -/
def lastPlace (num den : Nat) : Int :=
  let guess : Int := (num.log2 : Int) - den.log2 - 52
  let (a, b) := inBinaryUnits num den guess
  max (if a / b < leastMantissa then guess - 1 else guess) (-1074)

/-- The floating point number nearest to a quotient, if it is not too large. A half goes to the even
neighbour. A mantissa that is rounded up to the next power of two carries into the exponent. -/
def ofQuotient? (num den : Nat) : Option Float :=
  if num = 0 then some 0.0
  else
    let exponent := lastPlace num den
    let (a, b) := inBinaryUnits num den exponent
    let bits := (exponent + 1075).toNat * leastMantissa + roundQuotient a b - leastMantissa
    if bits < infinityBits then some (Float.ofBits bits.toUInt64) else none

/-- The floating point number nearest to an integer, if it is not too large. -/
def ofInt? (i : Int) : Option Float :=
  (ofQuotient? i.natAbs 1).map fun x => if i < 0 then -x else x

/-- The floating point number nearest to a fraction, if it is not too large. -/
def ofRat? (q : Rat) : Option Float :=
  (ofQuotient? q.num.natAbs q.den).map fun x => if q < 0 then -x else x

end CodeGraph.Decimal
