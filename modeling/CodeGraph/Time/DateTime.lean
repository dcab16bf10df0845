import CodeGraph.Decimal.Notation

namespace CodeGraph

/-- A point in time. -/
structure DateTime where
  year : Nat
  month : Nat
  day : Nat
  hour : Nat := 0
  minute : Nat := 0
  second : Nat := 0
  microsecond : Nat := 0
  /-- Seconds ahead of universal time. -/
  offset : Option Int := none
deriving Repr, DecidableEq, Inhabited

namespace DateTime

def isLeapYear (year : Nat) : Bool :=
  year % 4 == 0 && (year % 100 != 0 || year % 400 == 0)

/-- The length of a month, zero for a month that does not exist. -/
def daysInMonth (year : Nat) : Nat → Nat
  | 1 | 3 | 5 | 7 | 8 | 10 | 12 => 31
  | 4 | 6 | 9 | 11 => 30
  | 2 => if isLeapYear year then 29 else 28
  | _ => 0

/-- Whether the point is on the calendar, which begins with the year zero. -/
def isValid (t : DateTime) : Bool :=
  t.year ≤ 9999 && 0 < t.day && t.day ≤ daysInMonth t.year t.month &&
    t.hour < 24 && t.minute < 60 && t.second < 60 && t.microsecond < 1000000 &&
    t.offset.all fun seconds => seconds.natAbs < 86400

/-- The written offset: a sign, hours and minutes, and seconds if there are any. -/
def offsetText (seconds : Int) : String :=
  let n := seconds.natAbs
  (if seconds < 0 then "-" else "+") ++ Decimal.padded 2 (n / 3600) ++ ":" ++
    Decimal.padded 2 (n / 60 % 60) ++
    (if n % 60 = 0 then "" else ":" ++ Decimal.padded 2 (n % 60))

def dateText (t : DateTime) : String :=
  Decimal.padded 4 t.year ++ "-" ++ Decimal.padded 2 t.month ++ "-" ++ Decimal.padded 2 t.day

def clockText (t : DateTime) : String :=
  Decimal.padded 2 t.hour ++ ":" ++ Decimal.padded 2 t.minute ++ ":" ++ Decimal.padded 2 t.second

/-- The written form. Microseconds are left out when there are none. -/
def text (t : DateTime) : String :=
  t.dateText ++ "T" ++ t.clockText ++
    (if t.microsecond = 0 then "" else "." ++ Decimal.padded 6 t.microsecond) ++
    (match t.offset with | some seconds => offsetText seconds | none => "")

/-- The date and time of day with a blank between, without fraction and offset. -/
def shortText (t : DateTime) : String :=
  t.dateText ++ " " ++ t.clockText

end DateTime

end CodeGraph
