import CodeGraph.Decimal.Number

namespace CodeGraph

/-- A JSON value. -/
inductive Json where
  | null
  | bool (value : Bool)
  | int (value : Int)
  | float (value : Float)
  | str (value : String)
  | arr (items : List Json)
  | obj (members : List (String × Json))

instance : Inhabited Json := ⟨.null⟩

instance : Coe String Json := ⟨.str⟩
instance : Coe Bool Json := ⟨.bool⟩
instance : Coe Int Json := ⟨.int⟩
instance : Coe Nat Json := ⟨fun n => .int n⟩
instance : Coe Float Json := ⟨.float⟩

/-- The members of an object. -/
abbrev Members := List (String × Json)

namespace Members

/-- The value under a key. -/
def get? (members : Members) (key : String) : Option Json :=
  members.lookup key

/-- Binds a key: in its place if it is there, otherwise at the end. -/
def set (members : Members) (key : String) (value : Json) : Members :=
  match members with
  | [] => [(key, value)]
  | (k, v) :: rest => if k == key then (k, value) :: rest else (k, v) :: set rest key value

/-- Members without a key. -/
def erase (members : Members) (key : String) : Members :=
  members.filter fun member => member.1 != key

end Members

namespace Json

/-- The value under a key of an object. -/
def get? (value : Json) (key : String) : Option Json :=
  match value with
  | .obj members => members.lookup key
  | _ => none

/-- A list of texts. -/
def strings (items : List String) : Json :=
  .arr (items.map .str)

/-- A value or null. -/
def ofOption {α : Type} (f : α → Json) : Option α → Json
  | some a => f a
  | none => .null

/-- A text or null. -/
def ofText? : Option String → Json :=
  ofOption .str

/-- Whether a value counts as true: null, false, zero and whatever is empty do not. -/
def isTruthy : Json → Bool
  | .null => false
  | .bool b => b
  | .int i => i != 0
  | .float x => x != 0.0
  | .str s => !s.isEmpty
  | .arr items => !items.isEmpty
  | .obj members => !members.isEmpty

/-- Whether a value is null. -/
def isNull : Json → Bool
  | .null => true
  | _ => false

/-- The text of a string value. -/
def asText? : Json → Option String
  | .str s => some s
  | _ => none

/-- The items of a list value. -/
def asList? : Json → Option (List Json)
  | .arr items => some items
  | _ => none

/-- A number as a value. -/
def ofNumber : Number → Json
  | .int i => .int i
  | .float x => .float x

/-- The value of a number, truth values counted as one and zero. -/
def asNumber? : Json → Option Number
  | .bool b => some (.int (if b then 1 else 0))
  | .int i => some (.int i)
  | .float x => some (.float x)
  | _ => none

/-- The items of a list, the characters of a text, or the keys of an object. -/
def elements? : Json → Option (List Json)
  | .arr items => some items
  | .str s => some (s.toList.map fun c => .str (String.ofList [c]))
  | .obj members => some (members.map fun member => .str member.1)
  | _ => none

/-- The name of a value's type in messages. -/
def typeName : Json → String
  | .null => "NoneType"
  | .bool _ => "bool"
  | .int _ => "int"
  | .float _ => "float"
  | .str _ => "str"
  | .arr _ => "list"
  | .obj _ => "dict"

mutual

/-- Whether two values are the same: numbers by their values, objects whatever the order of their
members. -/
def isSame : Json → Json → Bool
  | .null, .null => true
  | .str s, .str t => s == t
  | .arr items, .arr others => itemsSame items others
  | .obj members, .obj others => members.length == others.length && membersSame members others
  | value, other =>
    match value.asNumber?, other.asNumber? with
    | some a, some b => a.isSame b
    | _, _ => false

def itemsSame : List Json → List Json → Bool
  | [], [] => true
  | item :: rest, other :: others => isSame item other && itemsSame rest others
  | _, _ => false

def membersSame : List (String × Json) → List (String × Json) → Bool
  | [], _ => true
  | (key, value) :: rest, others =>
    (match others.lookup key with
      | some other => isSame value other
      | none => false) && membersSame rest others

end

end Json

end CodeGraph
