import CodeGraph.Schema.Basic
import CodeGraph.Decimal.Reading
import CodeGraph.Decimal.Notation
import CodeGraph.Files.Path
import CodeGraph.Text.Blank
import CodeGraph.Text.Case
import CodeGraph.Time.Reading

namespace CodeGraph.Reader

/-- A text. -/
def text : Reader String
  | .str s => .ok s
  | _ => .issue .stringType

/-- A text, taken without white space at its ends. -/
def trimmed : Reader String
  | .str s => .ok (Text.trimWhiteSpace s)
  | _ => .issue .stringType

/-- A text or a number, which is taken as it is written. -/
def trimmedOrNumber : Reader String
  | .int i => .ok (toString i)
  | .float x => .ok (Decimal.text x)
  | value => trimmed value

/-- A value or null. -/
def nullable {α : Type} (read : Reader α) : Reader (Option α)
  | .null => .ok none
  | value => (read value).map some

/-- A value that passes a test. -/
def refine {α : Type} (read : Reader α) (check : α → Checked α) : Reader α :=
  fun value => read value >>= check

/-- The text without its underscores, if it has some, none of them at an end or beside another. -/
def dropUnderscores? (chars : List Char) : Option (List Char) :=
  let isUnderscore (c : Char) : Bool := c == '_'
  let doubled := (chars.zip (chars.drop 1)).any fun pair =>
    isUnderscore pair.1 && isUnderscore pair.2
  if !chars.any isUnderscore || chars.head?.any isUnderscore || chars.getLast?.any isUnderscore ||
      doubled then none
  else some (chars.filter fun c => !isUnderscore c)

/-- The integer that a text denotes: an optional minus sign and digits, of which the first one is a
zero only if it stands alone. A text that starts with too many digits is not read to its end. -/
def plainInt (chars : List Char) : Except IssueKind Int :=
  let minus := chars.head? == some '-'
  let body := if minus then chars.drop 1 else chars
  let digits := body.takeWhile Char.isDigit
  let n : Int := Decimal.ofDigits digits
  if digits.isEmpty || (digits.head? == some '0' && 1 < digits.length) then .error .intParsing
  else if Decimal.digitLimit < digits.length + minus.toNat then .error .intParsingSize
  else if digits.length < body.length then .error .intParsing
  else .ok (if minus then -n else n)

/-- What follows leading zeros and the underscores between them. A zero stays before a point and at
the end. -/
def afterZeros? (last : Char) : List Char → Option (List Char)
  | [] => some [last]
  | c :: rest =>
    if c == '0' || c == '_' then afterZeros? c rest
    else if c.isDigit || c == '-' then some (c :: rest)
    else if c == '.' then some (last :: c :: rest)
    else none

/-- The text without leading zeros. It starts with a digit or a minus sign. -/
def dropZeros? : List Char → Option (List Char)
  | [] => none
  | c :: rest =>
    if c == '0' then afterZeros? c rest
    else if c.isDigit || c == '-' then some (c :: rest)
    else none

/-- The text without a point that only zeros follow. -/
def dropFraction (chars : List Char) : List Char :=
  let zeros := (chars.dropWhile (· != '.')).drop 1
  if zeros.isEmpty || !zeros.all (· == '0') then chars else chars.takeWhile (· != '.')

/-- The text without white space around it and one plus sign. -/
def dropPlus? (chars : List Char) : Option (List Char) :=
  match Text.trimChars Text.isWhiteSpace chars with
  | '+' :: '-' :: _ => none
  | '+' :: rest => some rest
  | trimmed => some trimmed

/-- The plainer text that stands for the same integer, if there is one. -/
def plainer? (chars : List Char) : Option (List Char) := do
  let body ← (← dropPlus? chars) |> dropZeros?
  let body := dropFraction body
  match dropUnderscores? body with
  | some plain => some plain
  | none => if body.length = chars.length then none else some body

/-- The integer that a text denotes, plainly or else with white space around it, a plus sign, leading
zeros, single underscores or a fraction of zeros. -/
def intOfText (s : String) : Except IssueKind Int :=
  match plainInt s.toList with
  | .error .intParsing => ((plainer? s.toList).map plainInt).getD (.error .intParsing)
  | result => result

/-- An integer. -/
def int : Reader Int
  | .int i => .ok i
  | .bool b => .ok (if b then 1 else 0)
  | .float x =>
    if !x.isFinite then .issue .finiteNumber
    else if !Decimal.isIntegral x then .issue .intFromFloat
    else if isWord x then .ok (Decimal.truncate x)
    else .issue .intParsingSize
  | .str s =>
    match intOfText s with
    | .ok i => .ok i
    | .error kind => .issue kind
  | _ => .issue .intType

/-- The number that a text denotes, with white space around it or with single underscores in it. -/
def floatOfText? (s : String) : Option Float :=
  (Decimal.signedFraction? (Text.trimChars Text.isWhiteSpace s.toList)).or
    ((dropUnderscores? s.toList).bind Decimal.signedFraction?)

/-- A number. -/
def float : Reader Float
  | .float x => .ok x
  | .bool b => .ok (if b then 1.0 else 0.0)
  | .int i =>
    match Decimal.ofInt? i with
    | some x => .ok x
    | none => .issue .floatType
  | .str s =>
    match floatOfText? s with
    | some x => .ok x
    | none => .issue .floatParsing
  | _ => .issue .floatType

/-- The truth value that a word stands for. -/
def boolOfWord? (s : String) : Option Bool :=
  let word := s.map Char.toLower
  if ["1", "t", "y", "on", "yes", "true"].contains word then some true
  else if ["0", "f", "n", "off", "no", "false"].contains word then some false
  else none

/-- A truth value. -/
def bool : Reader Bool
  | .bool b => .ok b
  | .int 1 => .ok true
  | .int 0 => .ok false
  | .int i => .issue (if fitsWord i then .boolParsing else .boolType)
  | .float x =>
    if x == 1.0 then .ok true
    else if x == 0.0 then .ok false
    else .issue (if isWord x then .boolParsing else .boolType)
  | .str s =>
    match boolOfWord? s with
    | some b => .ok b
    | none => .issue .boolParsing
  | _ => .issue .boolType

/-- One of the texts that name the members of a type. -/
def named {α : Type} (ofName? : String → Option α) : Reader α
  | .str s =>
    match ofName? s with
    | some a => .ok a
    | none => .issue .enum
  | _ => .issue .enum

/-- An integer that is not too small. -/
def atLeast (least : Int) (i : Int) : Checked Int :=
  if least ≤ i then .ok i else .issue .tooSmall

/-- An integer between two bounds. -/
def between (least greatest : Int) (i : Int) : Checked Int :=
  if greatest < i then .issue .tooLarge else atLeast least i

/-- A number from zero to one. -/
def unit (x : Float) : Checked Float :=
  if !(x ≤ 1.0) then .issue .tooLarge
  else if !(0.0 ≤ x) then .issue .tooSmall
  else .ok x

/-- The items read one by one, with the issues of all of them. -/
def items {α : Type} (read : Reader α) (position : Nat) : List Json → Checked (List α)
  | [] => .ok []
  | item :: rest =>
    match (read item).under (.index position), items read (position + 1) rest with
    | .ok a, .ok as => .ok (a :: as)
    | .ok _, .error issues => .error issues
    | .error issues, .ok _ => .error issues
    | .error issues, .error more => .error (issues ++ more)

/-- A list. -/
def list {α : Type} (read : Reader α) : Reader (List α)
  | .arr values => items read 0 values
  | _ => .issue .listType

/-- An object of any values. -/
def object : Reader Members
  | .obj members => .ok members
  | _ => .issue .dictType

/-- An object of any values, its keys taken without white space at their ends. -/
def objectTrimmed : Reader Members
  | .obj members =>
    .ok (members.foldl (fun found (key, value) =>
      Members.set found (Text.trimWhiteSpace key) value) [])
  | _ => .issue .dictType

/-- A file path. -/
def path : Reader String
  | .str s => .ok (Path.normalize s)
  | _ => .issue .pathType

/-- A file path, taken without white space at its ends. -/
def pathTrimmed : Reader String
  | .str s => .ok (Path.normalize (Text.trimWhiteSpace s))
  | _ => .issue .pathType

/-- A point in time. The year zero is understood, but is on no calendar. -/
def datetime : Reader DateTime :=
  let dated (t? : Option DateTime) (kind : IssueKind) : Checked DateTime :=
    match t? with
    | some t => if t.year = 0 then .issue .datetimeNumber else .ok t
    | none => .issue kind
  fun
  | .str s => dated (DateTime.ofText? s) .datetimeText
  | .int n => dated (DateTime.ofInt? n)
      (if (Decimal.ofInt? n).isSome then .datetimeNumber else .datetimeType)
  | .float x => dated (DateTime.ofFloat? x) .datetimeNumber
  | _ => .issue .datetimeType

/-- Any value. -/
def any : Reader Json := .ok

end CodeGraph.Reader
