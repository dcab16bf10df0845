import CodeGraph.Decimal.Binary

namespace CodeGraph

/-- The first number that is too large for 64 bits. -/
def wordLimit : Int := 9223372036854775808

/-- Whether a number has at most 64 bits. -/
def fitsWord (i : Int) : Bool :=
  -wordLimit ≤ i && i < wordLimit

/-- Whether a floating point number is an integer of fewer than 64 bits beside its sign. -/
def isWord (x : Float) : Bool :=
  Decimal.isIntegral x && x.abs < 9223372036854775808.0

/-- A number. -/
inductive Number where
  | int (value : Int)
  | float (value : Float)
deriving Repr

instance : Inhabited Number := ⟨.int 0⟩

/-- Why there is no number of the kind that is asked for. -/
inductive NumberFault where
  /-- An integer is greater than every floating point number. -/
  | tooLarge
  /-- Infinity is no integer. -/
  | infinite
  /-- What is no number is no integer. -/
  | notNumber
deriving Repr, DecidableEq

def NumberFault.message : NumberFault → String
  | .tooLarge => "int too large to convert to float"
  | .infinite => "cannot convert float infinity to integer"
  | .notNumber => "cannot convert float NaN to integer"

namespace Number

/-- The floating point number nearest to a number. -/
def toFloat : Number → Except NumberFault Float
  | .int i => match Decimal.ofInt? i with
    | some x => .ok x
    | none => .error .tooLarge
  | .float x => .ok x

/-- The floating point number nearest to a number. An integer beyond all of them counts as infinite. -/
def nearest : Number → Float
  | .int i => (Decimal.ofInt? i).getD (if i < 0 then -1.0 / 0.0 else 1.0 / 0.0)
  | .float x => x

/-- Whether a number is no integer of more than 64 bits. -/
def isStorable : Number → Bool
  | .int i => fitsWord i
  | .float _ => true

def isZero : Number → Bool
  | .int i => i == 0
  | .float x => x == 0.0

/-- Whether two numbers have the same value. -/
def isSame : Number → Number → Bool
  | .int i, .int j => i == j
  | .float x, .float y => x == y
  | .int i, .float x | .float x, .int i => Decimal.isIntegral x && Decimal.truncate x == i

def sub (a b : Number) : Except NumberFault Number :=
  match a, b with
  | .int i, .int j => .ok (.int (i - j))
  | a, b => return .float ((← a.toFloat) - (← b.toFloat))

/-- The quotient by a number that is not zero. -/
def div (a b : Number) : Except NumberFault Float :=
  match a, b with
  | .int i, .int j => match Decimal.ofRat? ((i : Rat) / (j : Rat)) with
    | some x => .ok x
    | none => .error .tooLarge
  | a, b => return (← a.toFloat) / (← b.toFloat)

/-- The number in hundredths, as the nearest integer. A half goes to the even neighbour. -/
def percent : Number → Except NumberFault Int
  | .int i => .ok (100 * i)
  | .float x =>
    let scaled := x * 100.0
    if scaled.isNaN then .error .notNumber
    else if scaled.isInf then .error .infinite
    else .ok (Decimal.round scaled)

end Number

end CodeGraph
