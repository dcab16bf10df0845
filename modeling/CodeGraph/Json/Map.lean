import CodeGraph.Json.Value

namespace CodeGraph.Json

mutual

/-- The value with a function applied to each value in it that is neither a list nor an object. -/
def mapLeaves (f : Json → Json) : Json → Json
  | .arr items => .arr (mapItems f items)
  | .obj members => .obj (mapMembers f members)
  | .null => f .null
  | .bool b => f (.bool b)
  | .int i => f (.int i)
  | .float x => f (.float x)
  | .str s => f (.str s)

def mapItems (f : Json → Json) : List Json → List Json
  | [] => []
  | item :: rest => mapLeaves f item :: mapItems f rest

def mapMembers (f : Json → Json) : List (String × Json) → List (String × Json)
  | [] => []
  | (key, value) :: rest => (key, mapLeaves f value) :: mapMembers f rest

end

theorem mapItems_eq (f : Json → Json) (items : List Json) :
    mapItems f items = items.map (mapLeaves f) := by
  induction items with
  | nil => rfl
  | cons item rest ih => simp [mapItems, ih]

theorem mapMembers_eq (f : Json → Json) (members : List (String × Json)) :
    mapMembers f members = members.map fun member => (member.1, mapLeaves f member.2) := by
  induction members with
  | nil => rfl
  | cons member rest ih => simp [mapMembers, ih]

/-- The value with a function applied to each text in it. -/
def mapStrings (f : String → String) : Json → Json :=
  mapLeaves fun
    | .str s => .str (f s)
    | value => value

/-- The value as far as it can be written as text: infinities and what is no number are left out. -/
def finite : Json → Json :=
  mapLeaves fun
    | .float x => if x.isFinite then .float x else .null
    | value => value

end CodeGraph.Json
