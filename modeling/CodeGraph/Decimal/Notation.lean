import CodeGraph.Decimal.Shortest

namespace CodeGraph.Decimal

/-- A natural number with zeros in front, up to a width. -/
def padded (width n : Nat) : String :=
  let digits := Nat.toDigits 10 n
  String.ofList (List.replicate (width - digits.length) '0' ++ digits)

/-- An unsigned number in positional or exponent form. -/
def Digits.text (digits : Digits) : String :=
  let chars := Nat.toDigits 10 digits.value
  let point : Int := digits.exponent + chars.length
  if digits.value = 0 then "0.0"
  else if -4 < point ∧ point ≤ 16 then
    if point ≤ 0 then
      "0." ++ String.ofList (List.replicate (-point).toNat '0' ++ chars)
    else if chars.length ≤ point.toNat then
      String.ofList (chars ++ List.replicate (point.toNat - chars.length) '0') ++ ".0"
    else
      String.ofList (chars.take point.toNat) ++ "." ++ String.ofList (chars.drop point.toNat)
  else
    let power := point - 1
    let fraction := chars.drop 1
    String.ofList (chars.take 1) ++
      (if fraction.isEmpty then "" else "." ++ String.ofList fraction) ++
      "e" ++ (if power < 0 then "-" else "+") ++ padded 2 power.natAbs

/-- The written form of a number. Numbers without a value read "nan", "inf" and "-inf". -/
def text (x : Float) : String :=
  if x.isNaN then "nan"
  else (if isNegative x then "-" else "") ++ (if x.isInf then "inf" else (shortest x).text)

/-- A finite number with a fixed count of decimal places. A half goes to the even neighbour. -/
def fixed (places : Nat) (x : Float) : String :=
  let (num, den) := quotient x
  let scaled := roundQuotient (num * Nat.pow 10 places) den
  let sign := if isNegative x then "-" else ""
  let unit := Nat.pow 10 places
  if places = 0 then sign ++ toString scaled
  else sign ++ toString (scaled / unit) ++ "." ++ padded places (scaled % unit)

end CodeGraph.Decimal
