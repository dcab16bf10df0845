import CodeGraph.Json.Value

namespace CodeGraph

/-- A table with headed columns. -/
structure Table where
  title : Option String := none
  columns : List String
  rows : List (List String)
deriving Repr, DecidableEq

/-- Something printed. -/
inductive Printed where
  | line (text : String)
  | table (table : Table)
  | panel (title content : String)
  | tablePanel (title : String) (content : Table)
deriving Repr, DecidableEq

/-- A text in a colour. -/
def coloured (colour text : String) : String :=
  "[" ++ colour ++ "]" ++ text ++ "[/" ++ colour ++ "]"

def Table.toJson (table : Table) : Json :=
  .obj [("table", Json.ofText? table.title), ("columns", Json.strings table.columns),
    ("rows", .arr (table.rows.map Json.strings))]

def Printed.toJson : Printed → Json
  | .line text => .str text
  | .table content => content.toJson
  | .panel title content => .obj [("panel", .str title), ("content", .str content)]
  | .tablePanel title content => .obj [("panel", .str title), ("content", content.toJson)]

end CodeGraph
