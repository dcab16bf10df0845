import CodeGraph.Decimal.Reading
import CodeGraph.Json.Value
import CodeGraph.Text.Case
import CodeGraph.Text.Search

namespace CodeGraph

/-- The value that a text stands for: words for true and false, then numbers, then the text. A number
with a point is a fraction. -/
def Json.ofSetting (text : String) : Json :=
  let word := Text.lower text
  if ["true", "yes", "on"].contains word then .bool true
  else if ["false", "no", "off"].contains word then .bool false
  else if text.toList.contains '.' then ((Decimal.readFloat? text).map .float).getD (.str text)
  else ((Decimal.readInt? text).map .int).getD (.str text)

/-- The value with another one at the end of a row of keys. Objects on the way are made where there is
nothing. There is no such value when the way leads through something that is no object. -/
def Json.setAt? (value : Json) : List String → Json → Option Json
  | [], _ => some value
  | key :: rest, .obj members =>
    (setAt? value rest ((members.lookup key).getD (.obj []))).map fun inner =>
      .obj (Members.set members key inner)
  | _ :: _, _ => none

/-- Puts a value at the end of a row of keys in place: whether that could be done, and the value as it is
left. Where there is nothing, an object is made before the way goes on, and stays if it goes no further. -/
def Json.putAt (value : Json) : List String → Json → Bool × Json
  | [], _ => (true, value)
  | [key], .obj members => (true, .obj (Members.set members key value))
  | key :: next :: rest, .obj members =>
    let made := if (members.lookup key).isSome then members else Members.set members key (.obj [])
    let (done, inner) := putAt value (next :: rest) ((made.lookup key).getD .null)
    (done, .obj (Members.set made key inner))
  | _ :: _, other => (false, other)

/-- The value at the end of a row of keys. -/
def Json.getAt? : List String → Json → Option Json
  | [], value => some value
  | key :: rest, value => (value.get? key).bind (getAt? rest)

/-- The keys of a way that is written with dots between them. -/
def keysOf (way : String) : List String :=
  (Text.splitAt '.' way.toList).map String.ofList

end CodeGraph
