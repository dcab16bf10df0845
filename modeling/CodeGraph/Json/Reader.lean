import CodeGraph.Json.Value
import CodeGraph.Decimal.Reading

namespace CodeGraph.Json

/-- Why a text is not JSON. -/
inductive SyntaxFault where
  | expectedValue
  | expectedKey
  | expectedColon
  | expectedComma
  | unterminatedString
  | controlCharacter
  | invalidEscape
  | invalidUnicodeEscape
  | extraData
  | byteOrderMark
  /-- An integer has too many digits. -/
  | tooManyDigits (count : Nat)
deriving Repr, DecidableEq

/-- What is wrong, in words. -/
def SyntaxFault.message : SyntaxFault → String
  | .expectedValue => "Expecting value"
  | .expectedKey => "Expecting property name enclosed in double quotes"
  | .expectedColon => "Expecting ':' delimiter"
  | .expectedComma => "Expecting ',' delimiter"
  | .unterminatedString => "Unterminated string starting at"
  | .controlCharacter => "Invalid control character at"
  | .invalidEscape => "Invalid \\escape"
  | .invalidUnicodeEscape => "Invalid \\uXXXX escape"
  | .extraData => "Extra data"
  | .byteOrderMark => "Unexpected UTF-8 BOM (decode using utf-8-sig)"
  | .tooManyDigits count =>
    s!"Exceeds the limit ({Decimal.digitLimit} digits) for integer string conversion: value has " ++
      s!"{count} digits; use sys.set_int_max_str_digits() to increase the limit"

/-- A fault and how many characters were left where it was met. -/
structure Stop where
  fault : SyntaxFault
  left : Nat

def isSpace (c : Char) : Bool :=
  c == ' ' || c == '\t' || c == '\n' || c == '\x0d'

/-- The value of a hexadecimal digit. -/
def hexValue? (c : Char) : Option Nat :=
  if '0' ≤ c ∧ c ≤ '9' then some (c.toNat - '0'.toNat)
  else if 'a' ≤ c ∧ c ≤ 'f' then some (c.toNat - 'a'.toNat + 10)
  else if 'A' ≤ c ∧ c ≤ 'F' then some (c.toNat - 'A'.toNat + 10)
  else none

/-- Four hexadecimal digits and the rest. -/
def hexQuad? : List Char → Option (Nat × List Char)
  | a :: b :: c :: d :: rest => do
    let w ← hexValue? a
    let x ← hexValue? b
    let y ← hexValue? c
    let z ← hexValue? d
    some (((w * 16 + x) * 16 + y) * 16 + z, rest)
  | _ => none

/-- The character that a short escape stands for. -/
def shortEscape? : Char → Option Char
  | '"' => some '"'
  | '\\' => some '\\'
  | '/' => some '/'
  | 'b' => some '\x08'
  | 'f' => some '\x0c'
  | 'n' => some '\n'
  | 'r' => some '\x0d'
  | 't' => some '\t'
  | _ => none

/-- The code point of an escape, joined with the low half of a surrogate pair if that follows and is
not the end of the text. A text here is a sequence of Unicode scalar values. A lone half is none, and is
read as the replacement character U+FFFD, where a reader of code points keeps the half. -/
def joinSurrogates (code : Nat) (rest : List Char) : Char × List Char :=
  if 0xD800 ≤ code ∧ code ≤ 0xDBFF then
    match rest with
    | '\\' :: 'u' :: more =>
      match hexQuad? more with
      | some (low, after) =>
        if 0xDC00 ≤ low ∧ low ≤ 0xDFFF ∧ after ≠ [] then
          (Char.ofNat (0x10000 + (code - 0xD800) * 0x400 + (low - 0xDC00)), after)
        else ('\uFFFD', rest)
      | none => ('\uFFFD', rest)
    | _ => ('\uFFFD', rest)
  else if 0xDC00 ≤ code ∧ code ≤ 0xDFFF then ('\uFFFD', rest)
  else (Char.ofNat code, rest)

/-- The rest of a string after its opening quote, which stood where `start` characters were left. -/
def readString (start : Nat) (found : List Char) : Nat → List Char → Except Stop (String × List Char)
  | 0, _ => .error ⟨.unterminatedString, start⟩
  | _ + 1, [] => .error ⟨.unterminatedString, start⟩
  | fuel + 1, c :: rest =>
    if c == '"' then .ok (String.ofList found.reverse, rest)
    else if c == '\\' then
      match rest with
      | [] => .error ⟨.unterminatedString, start⟩
      | 'u' :: more =>
        if more.length ≤ 4 then .error ⟨.invalidUnicodeEscape, more.length + 1⟩
        else match hexQuad? more with
          | none => .error ⟨.invalidUnicodeEscape, more.length + 1⟩
          | some (code, after) =>
            let (char, next) := joinSurrogates code after
            readString start (char :: found) fuel next
      | e :: more =>
        match shortEscape? e with
        | some char => readString start (char :: found) fuel more
        | none => .error ⟨.invalidEscape, rest.length + 1⟩
    else if c.toNat ≤ 0x1F then .error ⟨.controlCharacter, rest.length + 1⟩
    else readString start (c :: found) fuel rest

/-- Digits of a fraction after a point, if the text goes on with one. -/
def readFraction (chars : List Char) : List Char × List Char :=
  match chars with
  | '.' :: d :: rest =>
    if d.isDigit then
      ('.' :: d :: rest.takeWhile Char.isDigit, rest.dropWhile Char.isDigit)
    else ([], chars)
  | _ => ([], chars)

/-- A sign, if the text goes on with one. -/
def readSign (chars : List Char) : List Char × List Char :=
  match chars with
  | '-' :: rest => (['-'], rest)
  | '+' :: rest => (['+'], rest)
  | _ => ([], chars)

/-- An exponent, if the text goes on with a whole one. -/
def readExponent (chars : List Char) : List Char × List Char :=
  match chars with
  | e :: rest =>
    if e == 'e' || e == 'E' then
      let (sign, digits) := readSign rest
      let power := digits.takeWhile Char.isDigit
      if power.isEmpty then ([], chars)
      else (e :: sign ++ power, digits.dropWhile Char.isDigit)
    else ([], chars)
  | [] => ([], chars)

/-- Whether there is a minus sign, and the rest. -/
def readMinus (chars : List Char) : Bool × List Char :=
  match chars with
  | '-' :: rest => (true, rest)
  | _ => (false, chars)

/-- The digits before a point, and the rest. A leading zero stands alone. -/
def readWhole (chars : List Char) : List Char × List Char :=
  match chars with
  | '0' :: rest => (['0'], rest)
  | _ => (chars.takeWhile Char.isDigit, chars.dropWhile Char.isDigit)

/-- A number and the rest. -/
def readNumber? (chars : List Char) : Option (Except SyntaxFault (Json × List Char)) :=
  let (minus, body) := readMinus chars
  let (whole, afterWhole) := readWhole body
  if whole.isEmpty then none
  else
    let (fraction, afterFraction) := readFraction afterWhole
    let (exponent, rest) := readExponent afterFraction
    if fraction.isEmpty && exponent.isEmpty then
      if Decimal.digitLimit < whole.length then some (.error (.tooManyDigits whole.length))
      else
        let n : Int := Decimal.ofDigits whole
        some (.ok (.int (if minus then -n else n), rest))
    else
      (Decimal.unsignedFraction? (whole ++ fraction ++ exponent)).map fun x =>
        .ok (.float (if minus then -x else x), rest)

/-- Words that are values. -/
def words : List (String × Json) :=
  [("null", .null), ("true", .bool true), ("false", .bool false), ("NaN", .float (0.0 / 0.0)),
    ("Infinity", .float (1.0 / 0.0)), ("-Infinity", .float (-1.0 / 0.0))]

/-- A word that the text starts with, as its value and the rest. -/
def readWord? (chars : List Char) : Option (Json × List Char) :=
  (words.find? fun word => word.1.toList.isPrefixOf chars).map fun word =>
    (word.2, chars.drop word.1.length)

def skipSpace (chars : List Char) : List Char :=
  chars.dropWhile isSpace

mutual

/-- A value at the start of the text. -/
def readValue : Nat → List Char → Except Stop (Json × List Char)
  | 0, chars => .error ⟨.expectedValue, chars.length⟩
  | fuel + 1, chars =>
    match chars with
    | '"' :: rest => do
      let (s, after) ← readString chars.length [] (rest.length + 1) rest
      .ok (.str s, after)
    | '{' :: rest =>
      match skipSpace rest with
      | '}' :: after => .ok (.obj [], after)
      | more => readMembers fuel [] more
    | '[' :: rest =>
      match skipSpace rest with
      | ']' :: after => .ok (.arr [], after)
      | more => readItems fuel [] more
    | _ =>
      match readWord? chars with
      | some found => .ok found
      | none =>
        match readNumber? chars with
        | some (.ok found) => .ok found
        | some (.error fault) => .error ⟨fault, chars.length⟩
        | none => .error ⟨.expectedValue, chars.length⟩

/-- The items of a list from one of them on, and its closing bracket. -/
def readItems : Nat → List Json → List Char → Except Stop (Json × List Char)
  | 0, _, chars => .error ⟨.expectedValue, chars.length⟩
  | fuel + 1, found, chars => do
    let (item, after) ← readValue fuel chars
    match skipSpace after with
    | ']' :: rest => .ok (.arr (item :: found).reverse, rest)
    | ',' :: rest => readItems fuel (item :: found) (skipSpace rest)
    | rest => .error ⟨.expectedComma, rest.length⟩

/-- The members of an object from one of them on, and its closing brace. -/
def readMembers : Nat → Members → List Char → Except Stop (Json × List Char)
  | 0, _, chars => .error ⟨.expectedKey, chars.length⟩
  | fuel + 1, found, chars => do
    let '"' :: body := chars | .error ⟨.expectedKey, chars.length⟩
    let (key, afterKey) ← readString chars.length [] (body.length + 1) body
    let beforeColon := skipSpace afterKey
    let ':' :: afterColon := beforeColon | .error ⟨.expectedColon, beforeColon.length⟩
    let (value, after) ← readValue fuel (skipSpace afterColon)
    let members := Members.set found key value
    match skipSpace after with
    | '}' :: rest => .ok (.obj members, rest)
    | ',' :: rest => readMembers fuel members (skipSpace rest)
    | rest => .error ⟨.expectedComma, rest.length⟩

end

/-- A fault at a position of a text, counted in characters from zero. -/
structure SyntaxError where
  fault : SyntaxFault
  position : Nat
  line : Nat
  column : Nat
deriving Repr, DecidableEq

/-- The fault with its line and column, both counted from one. -/
def SyntaxError.at (fault : SyntaxFault) (position : Nat) (text : List Char) : SyntaxError :=
  let before := text.take position
  { fault, position
    line := before.count '\n' + 1
    column := (before.reverse.takeWhile (· != '\n')).length + 1 }

/-- The fault in words, followed by where it is if that is of use. -/
def SyntaxError.message (e : SyntaxError) : String :=
  match e.fault with
  | .tooManyDigits _ => e.fault.message
  | _ => s!"{e.fault.message}: line {e.line} column {e.column} (char {e.position})"

/-- The value that a text denotes. In its texts and keys U+FFFD stands for lone halves of surrogate pairs. -/
def parse (text : String) : Except SyntaxError Json :=
  let chars := text.toList
  let stopped (stop : Stop) : SyntaxError := .at stop.fault (chars.length - stop.left) chars
  match chars with
  | '\uFEFF' :: _ => .error (.at .byteOrderMark 0 chars)
  | _ =>
    match readValue (chars.length + 1) (skipSpace chars) with
    | .error stop => .error (stopped stop)
    | .ok (value, after) =>
      match skipSpace after with
      | [] => .ok value
      | rest => .error (stopped ⟨.extraData, rest.length⟩)

end CodeGraph.Json
