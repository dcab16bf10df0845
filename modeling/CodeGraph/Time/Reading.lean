import CodeGraph.Time.DateTime
import CodeGraph.Decimal.Number
import CodeGraph.Decimal.Reading

namespace CodeGraph.DateTime

/-- A number written with exactly the given count of digits, and the rest. -/
def digits? (count : Nat) (chars : List Char) : Option (Nat × List Char) :=
  let digits := chars.take count
  if digits.length = count ∧ digits.all Char.isDigit then
    some (Decimal.ofDigits digits, chars.drop count)
  else none

/-- The rest after an expected character. -/
def after? (c : Char) : List Char → Option (List Char)
  | d :: rest => if c == d then some rest else none
  | [] => none

def date? (chars : List Char) : Option ((Nat × Nat × Nat) × List Char) := do
  let (year, rest) ← digits? 4 chars
  let (month, rest) ← digits? 2 (← after? '-' rest)
  let (day, rest) ← digits? 2 (← after? '-' rest)
  some ((year, month, day), rest)

/-- An offset: nothing, "Z", or a sign with hours and minutes. -/
def offset? : List Char → Option (Option Int)
  | [] => some none
  | ['Z'] | ['z'] => some (some 0)
  | c :: rest =>
    if c == '+' || c == '-' || c == '−' then do
      let (hours, rest) ← digits? 2 rest
      let (minutes, rest) ← digits? 2 ((after? ':' rest).getD rest)
      if rest.isEmpty ∧ minutes < 60 then
        let seconds : Int := hours * 3600 + minutes * 60
        some (some (if c == '+' then seconds else -seconds))
      else none
    else none

/-- Seconds with an optional fraction. Digits beyond microseconds are dropped. -/
def seconds? (chars : List Char) : Option ((Nat × Nat) × List Char) :=
  match chars with
  | ':' :: more => do
    let (second, rest) ← digits? 2 more
    match rest with
    | c :: fraction =>
      if c == '.' || c == ',' then
        let digits := fraction.takeWhile Char.isDigit
        if digits.isEmpty then none
        else
          let kept := digits.take 6
          some ((second, Decimal.ofDigits kept * Nat.pow 10 (6 - kept.length)),
            fraction.dropWhile Char.isDigit)
      else some ((second, 0), rest)
    | [] => some ((second, 0), rest)
  | _ => some ((0, 0), chars)

/-- A date and a time of day with an optional offset. -/
def full? (chars : List Char) : Option DateTime := do
  let ((year, month, day), rest) ← date? chars
  let mark :: rest := rest | none
  if mark == 'T' || mark == 't' || mark == ' ' || mark == '_' then
    let (hour, rest) ← digits? 2 rest
    let (minute, rest) ← digits? 2 (← after? ':' rest)
    let ((second, microsecond), rest) ← seconds? rest
    let offset ← offset? rest
    let t : DateTime := { year, month, day, hour, minute, second, microsecond, offset }
    if t.isValid then some t else none
  else none

/-- A date alone, which means its midnight. -/
def dateOnly? (chars : List Char) : Option DateTime := do
  let ((year, month, day), rest) ← date? chars
  let t : DateTime := { year, month, day }
  if rest.isEmpty ∧ t.isValid then some t else none

/-- The date of a day counted from the first of March of the year zero. -/
def ofDays (days : Int) : Nat × Nat × Nat :=
  let era := days / 146097
  let dayOfEra := (days % 146097).toNat
  let yearOfEra := (dayOfEra - dayOfEra / 1460 + dayOfEra / 36524 - dayOfEra / 146096) / 365
  let dayOfYear := dayOfEra - (365 * yearOfEra + yearOfEra / 4 - yearOfEra / 100)
  let shifted := (5 * dayOfYear + 2) / 153
  let day := dayOfYear - (153 * shifted + 2) / 5 + 1
  let month := if shifted < 10 then shifted + 3 else shifted - 9
  let year := (era * 400 + yearOfEra + (if month ≤ 2 then 1 else 0)).toNat
  (year, month, day)

/-- The point so many microseconds after the start of 1970. -/
def ofMicroseconds? (total : Int) : Option DateTime :=
  let seconds := total / 1000000
  let (year, month, day) := ofDays (seconds / 86400 + 719468)
  let rest := (seconds % 86400).toNat
  let t : DateTime := {
    year, month, day, hour := rest / 3600, minute := rest / 60 % 60, second := rest % 60
    microsecond := (total % 1000000).toNat, offset := some 0 }
  if seconds < -62167219200 ∨ 253402300799 < seconds then none
  else if t.isValid then some t else none

/-- The magnitude from which a number counts milliseconds and not seconds. -/
def millisecondLimit : Nat := 20000000000

/-- Whether a whole number counts milliseconds. -/
def countsMilliseconds (n : Int) : Bool :=
  millisecondLimit < n.natAbs

/-- The point that a whole number stands for. -/
def ofInt? (n : Int) : Option DateTime :=
  ofMicroseconds? (if countsMilliseconds n then n * 1000 else n * 1000000)

/-- The point that a number stands for. Its fraction is rounded to microseconds, a half up. -/
def ofFloat? (x : Float) : Option DateTime :=
  let whole := Decimal.truncate x.floor
  let fraction := x - x.floor
  if !x.isFinite then none
  else if countsMilliseconds whole then
    ofMicroseconds? (whole * 1000 + Decimal.roundUp (fraction * 1000.0))
  else ofMicroseconds? (whole * 1000000 + Decimal.roundUp (fraction * 1000000.0))

/-- A number and a fraction whose digits are added to it one after another. -/
def addDigits (whole : Float) (digits : List Char) : Float :=
  (digits.foldl (fun (sum, unit) c =>
    (sum + (Decimal.ofDigits [c]).toFloat / unit, unit * 10.0)) (whole, 10.0)).1

/-- The point that a number in a text stands for. The number starts with a digit. -/
def ofNumeral? (chars : List Char) : Option DateTime :=
  let (minus, body) := Decimal.splitSign chars
  let digits := body.takeWhile Char.isDigit
  let n : Int := Decimal.ofDigits digits
  if digits.isEmpty || !fitsWord n then none
  else match body.dropWhile Char.isDigit with
  | [] => ofInt? (if minus then -n else n)
  | c :: fraction =>
    if c == '.' && fraction.all Char.isDigit then
      let x := addDigits (Float.ofInt n) fraction
      ofFloat? (if minus then -x else x)
    else none

/-- The point a text denotes: a date with a time of day, a number, or a date. -/
def ofText? (s : String) : Option DateTime :=
  (full? s.toList).or ((ofNumeral? s.toList).or (dateOnly? s.toList))

end CodeGraph.DateTime
