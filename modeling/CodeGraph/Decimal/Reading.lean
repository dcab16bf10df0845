import CodeGraph.Decimal.Binary
import CodeGraph.Text.Digit
import CodeGraph.Text.Blank

namespace CodeGraph.Decimal

/-- The value of a row of decimal digits. -/
def ofDigits (digits : List Char) : Nat :=
  digits.foldl (fun n c => 10 * n + (c.toNat - '0'.toNat)) 0

/-- The number nearest to digits times a power of ten. -/
def nearest (digits : List Char) (power : Int) : Float :=
  let significant := digits.dropWhile (· == '0')
  let size : Int := significant.length + power
  if significant.isEmpty || size < -400 then 0.0
  else if size > 400 then 1.0 / 0.0
  else
    let (num, den) := inUnits (ofDigits significant) 1 (-power)
    (ofQuotient? num den).getD (1.0 / 0.0)

/-- A sign, if there is one, and the rest. True stands for minus. -/
def splitSign : List Char → Bool × List Char
  | '-' :: rest => (true, rest)
  | '+' :: rest => (false, rest)
  | rest => (false, rest)

/-- A text without underscores, if each of them stands between two digits. -/
def dropUnderscores? (previous : Option Char) : List Char → Option (List Char)
  | [] => if previous == some '_' then none else some []
  | c :: rest =>
    if c == '_' then
      if previous.any Char.isDigit && rest.head?.any Char.isDigit then
        dropUnderscores? (some c) rest
      else none
    else (dropUnderscores? (some c) rest).map (c :: ·)

/-- The digits after a point, if there is one, and the rest. -/
def splitFraction : List Char → List Char × List Char
  | '.' :: rest => (rest.takeWhile Char.isDigit, rest.dropWhile Char.isDigit)
  | rest => ([], rest)

/-- The power of ten of an exponent of at least one digit, or of none. -/
def exponent? : List Char → Option Int
  | [] => some 0
  | c :: rest =>
    let (minus, digits) := splitSign rest
    if (c == 'e' || c == 'E') && !digits.isEmpty && digits.all Char.isDigit then
      let significant := digits.dropWhile (· == '0')
      let size : Nat := if significant.length > 9 then 1000000000 else ofDigits significant
      let power : Int := size
      some (if minus then -power else power)
    else none

/-- An unsigned decimal fraction with an optional exponent. At least one digit stands before or
after the point. -/
def unsignedFraction? (chars : List Char) : Option Float :=
  let whole := chars.takeWhile Char.isDigit
  let (fraction, rest) := splitFraction (chars.dropWhile Char.isDigit)
  let digits := whole ++ fraction
  if digits.isEmpty then none
  else (exponent? rest).map fun power => nearest digits (power - fraction.length)

/-- A signed number, an infinity, or no number at all ("nan"), in any case. -/
def signedFraction? (chars : List Char) : Option Float :=
  let (minus, body) := splitSign chars
  let word := String.ofList (body.map Char.toLower)
  let magnitude? :=
    if word == "inf" || word == "infinity" then some (1.0 / 0.0)
    else if word == "nan" then some (0.0 / 0.0)
    else unsignedFraction? body
  magnitude?.map fun x => if minus then -x else x

/-- Digits of every script as ASCII digits, white space of every kind as the ASCII blank. -/
def toAsciiNumeral (s : String) : List Char :=
  s.toList.map fun c =>
    match Text.digitValue? c with
    | some d => Char.ofNat (0x30 + d)
    | none => if Text.isWhiteSpace c then ' ' else c

/-- How many digits an integer that is read from text may have. -/
def digitLimit : Nat := 4300

/-- The integer a text denotes: white space around it, a sign, digits with single underscores. -/
def readInt? (s : String) : Option Int := do
  let (minus, body) := splitSign (Text.trimChars (· == ' ') (toAsciiNumeral s))
  let digits ← dropUnderscores? none body
  if digits.isEmpty || !digits.all Char.isDigit || digitLimit < digits.length then none
  else
    let n : Int := ofDigits digits
    some (if minus then -n else n)

/-- The number a text denotes: white space around it, a sign, a decimal fraction with an optional
exponent and single underscores between digits, or the name of an infinity or of no number. -/
def readFloat? (s : String) : Option Float := do
  let chars ← dropUnderscores? none (Text.trimChars (· == ' ') (toAsciiNumeral s))
  signedFraction? chars

end CodeGraph.Decimal
