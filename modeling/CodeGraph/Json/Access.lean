import CodeGraph.Decimal.Binary
import CodeGraph.Json.Text

namespace CodeGraph.Json

/-- The member under a key, or null. -/
def field (value : Json) (key : String) : Json :=
  (value.get? key).getD .null

/-- The members of an object. -/
def members : Json → Members
  | .obj members => members
  | _ => []

/-- The members of an object as an object, with defaults for those that are missing. -/
def withDefaults (defaults : Members) (value : Json) : Json :=
  .obj (defaults.filter (fun member => (value.get? member.1).isNone) ++ value.members)

def textAt? (value : Json) (key : String) : Option String :=
  (value.get? key).bind asText?

def textAt (value : Json) (key : String) (default : String := "") : String :=
  (value.textAt? key).getD default

/-- The text of a member that is given and not null. -/
def wordAt? (value : Json) (key : String) : Option String :=
  ((value.get? key).filter (!·.isNull)).map text

def itemsAt (value : Json) (key : String) : List Json :=
  ((value.get? key).bind asList?).getD []

/-- The texts of items, or the characters of a text. -/
def texts : Json → List String
  | .arr items => items.map text
  | .str s => s.toList.map fun c => String.ofList [c]
  | _ => []

def textsAt (value : Json) (key : String) (default : List String := []) : List String :=
  (value.get? key).elim default texts

def flagAt (value : Json) (key : String) (default : Bool := false) : Bool :=
  (value.get? key).elim default isTruthy

/-- The whole part of a number. -/
def asInt? (value : Json) : Option Int :=
  value.asNumber?.map fun
    | .int i => i
    | .float x => Decimal.truncate x

def intAt? (value : Json) (key : String) : Option Int :=
  (value.get? key).bind asInt?

def intAt (value : Json) (key : String) (default : Int := 0) : Int :=
  (value.intAt? key).getD default

def numberAt? (value : Json) (key : String) : Option Number :=
  (value.get? key).bind asNumber?

def numberAt (value : Json) (key : String) (default : Number) : Number :=
  (value.numberAt? key).getD default

def asFloat? (value : Json) : Option Float :=
  value.asNumber?.map Number.nearest

def floatAt? (value : Json) (key : String) : Option Float :=
  (value.get? key).bind asFloat?

def floatAt (value : Json) (key : String) (default : Float := 0.0) : Float :=
  (value.floatAt? key).getD default

end CodeGraph.Json
