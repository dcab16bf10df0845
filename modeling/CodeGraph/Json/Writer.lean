import CodeGraph.Json.Value
import CodeGraph.Decimal.Notation

namespace CodeGraph.Json

/-- A hexadecimal number of four digits. -/
def hexQuad (n : Nat) : List Char :=
  [n / 4096 % 16, n / 256 % 16, n / 16 % 16, n % 16].map Nat.digitChar

/-- The escape of a UTF-16 unit. -/
def unitEscape (n : Nat) : List Char :=
  '\\' :: 'u' :: hexQuad n

/-- A character inside a written string. -/
def escapeChar (ascii : Bool) (c : Char) : List Char :=
  let n := c.toNat
  if c == '"' then ['\\', '"']
  else if c == '\\' then ['\\', '\\']
  else if c == '\n' then ['\\', 'n']
  else if c == '\x0d' then ['\\', 'r']
  else if c == '\t' then ['\\', 't']
  else if n == 0x08 then ['\\', 'b']
  else if n == 0x0C then ['\\', 'f']
  else if n < 0x20 then unitEscape n
  else if !ascii || n < 0x7F then [c]
  else if n < 0x10000 then unitEscape n
  else
    unitEscape (0xD800 + (n - 0x10000) / 0x400) ++ unitEscape (0xDC00 + (n - 0x10000) % 0x400)

/-- A written string with its quotes. -/
def quote (ascii : Bool) (s : String) : String :=
  String.ofList ('"' :: s.toList.flatMap (escapeChar ascii) ++ ['"'])

/-- A written number. -/
def numberText (x : Float) : String :=
  if x.isNaN then "NaN"
  else if x.isInf then (if x < 0.0 then "-Infinity" else "Infinity")
  else Decimal.text x

mutual

/-- The value on one line. -/
def compact : Json → String
  | .null => "null"
  | .bool b => if b then "true" else "false"
  | .int i => toString i
  | .float x => numberText x
  | .str s => quote true s
  | .arr items => "[" ++ ", ".intercalate (compactItems items) ++ "]"
  | .obj members => "\x7b" ++ ", ".intercalate (compactMembers members) ++ "\x7d"

def compactItems : List Json → List String
  | [] => []
  | item :: rest => compact item :: compactItems rest

def compactMembers : List (String × Json) → List String
  | [] => []
  | (key, value) :: rest => (quote true key ++ ": " ++ compact value) :: compactMembers rest

end

/-- A line break and the indentation of a depth. -/
def newline (depth : Nat) : String :=
  "\n" ++ String.ofList (List.replicate (2 * depth) ' ')

mutual

/-- The value over several lines, where it starts at a depth. -/
def indentedAt (ascii : Bool) (depth : Nat) : Json → String
  | .arr [] => "[]"
  | .arr items =>
    "[" ++ newline (depth + 1) ++
      ("," ++ newline (depth + 1)).intercalate (indentedItems ascii (depth + 1) items) ++
      newline depth ++ "]"
  | .obj [] => "\x7b\x7d"
  | .obj members =>
    "\x7b" ++ newline (depth + 1) ++
      ("," ++ newline (depth + 1)).intercalate (indentedMembers ascii (depth + 1) members) ++
      newline depth ++ "\x7d"
  | .str s => quote ascii s
  | .null => "null"
  | .bool b => if b then "true" else "false"
  | .int i => toString i
  | .float x => numberText x

def indentedItems (ascii : Bool) (depth : Nat) : List Json → List String
  | [] => []
  | item :: rest => indentedAt ascii depth item :: indentedItems ascii depth rest

def indentedMembers (ascii : Bool) (depth : Nat) : List (String × Json) → List String
  | [] => []
  | (key, value) :: rest =>
    (quote ascii key ++ ": " ++ indentedAt ascii depth value) :: indentedMembers ascii depth rest

end

/-- The value over several lines, two blanks for each level. -/
def indented (ascii : Bool) (value : Json) : String :=
  indentedAt ascii 0 value

end CodeGraph.Json
