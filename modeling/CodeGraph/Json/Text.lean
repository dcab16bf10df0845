import CodeGraph.Json.Writer
import CodeGraph.Text.Printable
import CodeGraph.Text.Search

namespace CodeGraph.Json

/-- A lower-case hexadecimal number with zeros in front, up to a width. -/
def paddedHex (width n : Nat) : List Char :=
  let digits := Nat.toDigits 16 n
  List.replicate (width - digits.length) '0' ++ digits

/-- A character between quotes of a kind. -/
def quotedChar (mark c : Char) : List Char :=
  let n := c.toNat
  if c == mark || c == '\\' then ['\\', c]
  else if c == '\n' then ['\\', 'n']
  else if c == '\x0d' then ['\\', 'r']
  else if c == '\t' then ['\\', 't']
  else if Text.isPrintable c then [c]
  else if n < 0x100 then '\\' :: 'x' :: paddedHex 2 n
  else if n < 0x10000 then '\\' :: 'u' :: paddedHex 4 n
  else '\\' :: 'U' :: paddedHex 8 n

/-- A text in single quotes, or in double quotes if it holds a single quote and no double one. -/
def quoted (s : String) : String :=
  let chars := s.toList
  let mark := if chars.contains '\'' && !chars.contains '"' then '"' else '\''
  String.ofList (mark :: chars.flatMap (quotedChar mark) ++ [mark])

mutual

/-- The text of a value that stands inside another. -/
def inner : Json → String
  | .null => "None"
  | .bool b => if b then "True" else "False"
  | .int i => toString i
  | .float x => Decimal.text x
  | .str s => quoted s
  | .arr items => "[" ++ ", ".intercalate (innerItems items) ++ "]"
  | .obj members => "\x7b" ++ ", ".intercalate (innerMembers members) ++ "\x7d"

def innerItems : List Json → List String
  | [] => []
  | item :: rest => inner item :: innerItems rest

def innerMembers : List (String × Json) → List String
  | [] => []
  | (key, value) :: rest => (quoted key ++ ": " ++ inner value) :: innerMembers rest

end

/-- The text of a value. -/
def text : Json → String
  | .str s => s
  | value => inner value

end CodeGraph.Json
