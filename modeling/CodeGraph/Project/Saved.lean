import CodeGraph.Json.Access
import CodeGraph.Json.Reader
import CodeGraph.Project.Database

namespace CodeGraph

/-- The records in a list of values, or none if one of them is not a record. -/
def Schema.readAll? {α : Type} (schema : Schema α) (values : List Json) : Option (List α) :=
  values.mapM fun value => (schema.validate value).toOption

namespace Database

def toJson (database : Database) : Json :=
  let hooks := database.hooks
  let reports := hooks.reports.map fun entry => Json.arr [.str entry.1, entry.2.toJson]
  .obj [("entities", .arr (database.graph.entities.map (·.toJson))),
    ("edges", .arr (database.graph.edges.map (·.toJson))),
    ("issued", .int database.graph.issued),
    ("executions", .arr (hooks.executions.map (·.toJson))), ("reports", .arr reports),
    ("commits", hooks.commitRows)]

/-- The report in a row, with its project. -/
def report? (now : DateTime) : Json → Option (String × ImpactReport)
  | .arr [.str project, report] =>
    ((ImpactReport.schema now).validate report).toOption.map (project, ·)
  | _ => none

def commit? : Json → Option IndexedCommit
  | .arr [.str project, .str commit, fileCount] => some ⟨project, commit, fileCount⟩
  | _ => none

/-- The database that a value describes. -/
def ofJson? (now : DateTime) (value : Json) : Option Database := do
  let entities ← (Entity.schema now).readAll? (value.itemsAt "entities")
  let edges ← (Relationship.schema now).readAll? (value.itemsAt "edges")
  let executions ← (HookExecution.schema now "").readAll? (value.itemsAt "executions")
  let reports ← (value.itemsAt "reports").mapM (report? now)
  let commits ← (value.itemsAt "commits").mapM commit?
  let issued := (value.intAt "issued").toNat
  return { graph := { entities, edges, issued }, hooks := { executions, reports, commits } }

/-- The database that a text describes. -/
def ofText? (now : DateTime) (text : String) : Option Database :=
  match Json.parse text with
  | .ok value => ofJson? now value
  | .error _ => none

end Database

end CodeGraph
