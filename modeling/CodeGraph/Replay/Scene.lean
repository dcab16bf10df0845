import CodeGraph.Graph.Faults
import CodeGraph.Linking.Operation

namespace CodeGraph

def SimilaritySearch.toJson (search : SimilaritySearch) : Json :=
  .obj [("text", .str search.text), ("limit", .int search.limit),
    ("threshold", .ofNumber search.threshold), ("entity_types", Json.ofOption Json.strings search.kinds)]

namespace Replay

/-- A recorded row: an entity, its score, and its kind if that is known. -/
def match? : Json → Option SimilarityMatch
  | .arr (.str entity :: score :: rest) =>
    some ⟨entity, score.asNumber?.getD (.float 0.0), rest.head?.bind Json.asText?⟩
  | _ => none

/-- Answers a search from recorded rows. Raw rows are all answered; otherwise those that the search
asks for. -/
def similar (recorded : Json) (raw : Bool) : Similarity := fun search =>
  match recorded.get? search.text with
  | some (.arr rows) =>
    let found := rows.filterMap match?
    let kinds := search.kinds.getD []
    let fits (m : SimilarityMatch) : Bool :=
      search.threshold.nearest ≤ m.score.nearest && (kinds.isEmpty || m.kind.all kinds.contains)
    .ok (if raw then found else Linker.firstItems search.limit (found.filter fits))
  | some failure => .error (.fault (failure.textAt "error"))
  | none => .ok []

/-- The pairs of texts that a value lists. -/
def pairs (value : Json) (key : String) : List (String × String) :=
  (value.itemsAt key).filterMap fun
    | .arr [.str a, .str b] => some (a, b)
    | _ => none

/-- The faults that an object lists. -/
def faults (value : Json) : StoreFaults :=
  { unreadable := value.textsAt "get_fails", uncreatable := pairs value "create_fails"
    contested := pairs value "lost_race" }

/-- An entity, named after its id where no name is given. -/
def entity (now : DateTime) (value : Json) : Except Invalid Entity :=
  let id := value.textAt "id"
  (Entity.schema now).validate
    (value.withDefaults [("name", .str id), ("qualified_name", .str ("q::" ++ id))])

/-- Stores entities and edges. An edge is given by its ends, its tag, and maybe its weight and
metadata. -/
def populate (now : DateTime) (entities edges : List Json) : GraphTask Unit := do
  entities.forM fun value => do
    match entity now value with
    | .ok entity => discard (GraphTask.upsert entity)
    | .error cause => throw (.invalid cause)
  edges.forM fun
    | .arr (source :: target :: tag :: rest) =>
      discard (GraphTask.createGiven now source target tag (rest.head?.getD (.float 1.0))
        ((rest.drop 1).head?.getD .null))
    | _ => pure ()

end Replay

/-- A stored graph with faults and recorded searches. -/
structure Scene where
  now : DateTime
  faults : StoreFaults := {}
  similar : Similarity := fun _ => .ok []
  store : GraphStore := {}
  searches : List SimilaritySearch := []

namespace Scene

/-- Answers a request and keeps a search. -/
def respond : (request : GraphRequest) → Scene → Except StoreFailure request.Value × Scene
  | .search search, scene =>
    (scene.similar search, { scene with searches := scene.searches ++ [search] })
  | request, scene =>
    let (answer, store) := scene.faults.respond scene.now scene.similar request scene.store
    (answer, { scene with store })

def run {α : Type} (scene : Scene) (task : GraphTask α) : Except StoreFailure α × Scene :=
  Program.run respond task.run scene

end Scene

/-- The entities and edges as rows, in the order in which they came to be. -/
def GraphStore.rows (store : GraphStore) : Json :=
  let entities := store.entities.map fun e => Json.arr [.str e.id, .str e.kind.name, .str e.name,
    .str e.qualifiedName, Json.ofText? e.filePath, .obj e.metadata]
  let edges := store.edges.map fun e => Json.arr [.str e.source, .str e.target, .str e.tag,
    .float e.weight, .obj e.metadata]
  .obj [("entities", .arr entities), ("edges", .arr edges)]

end CodeGraph
