import CodeGraph.Config.Search
import CodeGraph.Embedding.Embedder
import CodeGraph.Graph.Entity
import CodeGraph.Hash.Sha256
import CodeGraph.Outcome
import CodeGraph.Program

namespace CodeGraph

/-- How far apart two points of a collection are. -/
inductive Distance where
  | cosine
  | euclid
  | dot
deriving Repr, DecidableEq

def Distance.name : Distance → String
  | .cosine => "Cosine"
  | .euclid => "Euclid"
  | .dot => "Dot"

/-- The distance that a configuration names. -/
def QdrantConfig.distance (config : QdrantConfig) : Distance :=
  if config.distanceMetric == "euclidean" then .euclid
  else if config.distanceMetric == "dot" then .dot
  else .cosine

/-- The id of the point of an entity: the first eight bytes of the hash of its id. -/
def pointId (entity : String) : Nat :=
  ((Sha256.hashText entity).take 8).foldl (fun n byte => 256 * n + byte.toNat) 0

/-- A point of a collection. -/
structure Point where
  id : Nat
  vector : Embedding
  payload : Members

/-- What stands beside the embedding of an entity. -/
def Entity.payload (entity : Entity) : Members :=
  [("entity_id", .str entity.id), ("entity_type", .str entity.kind.name),
    ("name", .str entity.name), ("qualified_name", .str entity.qualifiedName),
    ("file_path", Json.ofText? entity.filePath)]

/-- The point of an entity with an embedding. -/
def Entity.point (entity : Entity) (embedding : Embedding) : Point where
  id := pointId entity.id
  vector := embedding
  payload := entity.payload

/-- A query for points near a vector. -/
structure PointQuery where
  vector : Embedding
  /-- The kinds of entities asked for, all of them if there are none. -/
  kinds : List String := []
  limit : Int := 10
  threshold : Float := 0.0

/-- A point found by a query. -/
structure ScoredPoint where
  payload : Json
  score : Float

/-- What is asked of the vector database and of the embedder. -/
inductive IndexRequest where
  | hasCollection (collection : String)
  | createCollection (collection : String) (size : Int) (distance : Distance)
  | upsert (collection : String) (points : List Point)
  | delete (collection : String) (ids : List Nat)
  | query (collection : String) (query : PointQuery)
  | close
  | loadModel
  | generate (texts : List String)

namespace IndexRequest

def Reply : IndexRequest → Type
  | .hasCollection _ => Except String Bool
  | .createCollection _ _ _ | .upsert _ _ | .delete _ _ | .close => Except String Unit
  | .query _ _ => Except String (List ScoredPoint)
  | .loadModel => Except String Bool
  | .generate _ => Except String (List Embedding)

/-- The numbers of an embedding. -/
def numbers (embedding : Embedding) : Json :=
  .arr (embedding.map .float)

/-- A request to the database, by name and with its arguments. -/
def call? : IndexRequest → Option (String × Members)
  | .hasCollection name => some ("collection_exists", [("name", .str name)])
  | .createCollection name size distance => some ("create_collection",
      [("name", .str name), ("size", .int size), ("distance", .str distance.name)])
  | .upsert name points => some ("upsert", [("name", .str name), ("points",
      .arr (points.map fun p => .obj [("id", .str (toString p.id)), ("vector", numbers p.vector),
        ("payload", .obj p.payload)]))])
  | .delete name ids => some ("delete",
      [("name", .str name), ("ids", Json.strings (ids.map toString))])
  | .query name q => some ("query_points",
      [("name", .str name), ("query", numbers q.vector),
        ("filter", if q.kinds.isEmpty then .null
          else .arr [.arr [.str "entity_type", Json.strings q.kinds]]),
        ("limit", .int q.limit), ("score_threshold", .float q.threshold),
        ("with_payload", .bool true), ("with_vectors", .bool false)])
  | .close => some ("close", [])
  | .loadModel | .generate _ => none

end IndexRequest

/-- What an index knows of the database and of the embedder. -/
structure IndexState where
  collectionReady : Bool := false
  connected : Bool := true
  modelLoaded : Bool := false
deriving Repr, DecidableEq

/-- Work with an index. -/
abbrev IndexWork := StateT IndexState (Program IndexRequest IndexRequest.Reply)

/-- Puts a request. -/
def IndexWork.ask (request : IndexRequest) : IndexWork request.Reply :=
  liftM (Program.ask request .done : Program IndexRequest IndexRequest.Reply request.Reply)

/-- Why the index cannot answer. -/
inductive IndexFault where
  | noEmbedder
  | failed (reason : String)
deriving Repr, DecidableEq

def IndexFault.message : IndexFault → String
  | .noEmbedder => "No embedder configured for similarity search. " ++
      "Pass an embedder when creating QdrantSimilarityIndex."
  | .failed reason => reason

/-- A collection of a database, and the name and dimensions of the embedder, if there is one. -/
structure VectorIndex where
  config : QdrantConfig := {}
  collection : String
  embedder : Option (String × Int) := none

namespace VectorIndex

/-- The index for a collection, or for the one of the configuration if none is named. -/
def new (config : QdrantConfig) (collection : String) (embedder : Option (String × Int)) :
    VectorIndex :=
  { config, embedder
    collection := if collection == "" then config.collectionName else collection }

/-- The embedder of an index. -/
def embedderOf (name : String) (dimensions : Int) : Embedder IndexWork where
  name
  dimensions
  isLoaded := (·.modelLoaded) <$> get
  load := do
    let loaded ← IndexWork.ask .loadModel
    modify fun state => { state with modelLoaded := loaded.toOption.getD state.modelLoaded }
    return loaded
  generate texts := IndexWork.ask (.generate texts)

/-- The index as work that may fail. -/
abbrev Work := ExceptT IndexFault IndexWork

/-- A request that may fail. -/
def Work.ofReply {α : Type} (reply : IndexWork (Except String α)) : Work α :=
  ExceptT.mk do return (← reply).mapError .failed

/-- A request to the database, which is connected to if it is not. -/
def Work.ofDatabase {α : Type} (reply : IndexWork (Except String α)) : Work α := do
  modify fun state => { state with connected := true }
  Work.ofReply reply

/-- The embedder, if there is one. -/
def requireEmbedder (index : VectorIndex) : Work (Embedder IndexWork) :=
  match index.embedder with
  | some (name, dimensions) => return embedderOf name dimensions
  | none => throw .noEmbedder

/-- Makes the collection, unless it is known to exist. -/
def ensureCollection (index : VectorIndex) : Work Unit := do
  if (← get).collectionReady then return ()
  if !(← Work.ofDatabase (IndexWork.ask (.hasCollection index.collection))) then
    let size := (index.embedder.map (·.2)).getD index.config.vectorSize
    Work.ofDatabase (IndexWork.ask (.createCollection index.collection size index.config.distance))
  modify fun state => { state with collectionReady := true }

/-- The embedding of a text. -/
def embed (index : VectorIndex) (text : String) : Work Embedding := do
  let embedder ← index.requireEmbedder
  Work.ofReply (embedder.embed text)

/-- Puts entities into the collection, each with the embedding at its place, and counts the points. -/
def store (index : VectorIndex) (embedder : Embedder IndexWork) (entities : List Entity) :
    Work Nat := do
  index.ensureCollection
  let embeddings ← Work.ofReply (embedder.embedTexts (entities.map (·.searchText)))
  let points := entities.zipWith Entity.point embeddings
  Work.ofDatabase (IndexWork.ask (.upsert index.collection points))
  return points.length

/-- Puts entities into the collection. What goes wrong is part of the outcome, unless there is no
embedder at all. -/
def indexEntities (index : VectorIndex) (now : DateTime) (entities : List Entity) :
    Work (Outcome Nat) := do
  let operation := "index_entities"
  if entities.isEmpty then return .success 0 operation now 0 (some 0.0)
  let embedder ← index.requireEmbedder
  match ← ExceptT.lift (index.store embedder entities).run with
  | .ok count => return .success count operation now count (some 0.0)
  | .error fault =>
    return { (Outcome.failure ("Failed to index entities: " ++ fault.message) operation now (some 0)
        : Outcome Nat) with
      errorDetails := some [("total_entities", .int entities.length)], milliseconds := some 0.0 }

/-- Takes the points of entities away. -/
def removeEntities (index : VectorIndex) (ids : List String) : Work Unit := do
  if ids.isEmpty then return ()
  else Work.ofDatabase (IndexWork.ask (.delete index.collection (ids.map pointId)))

/-- The id, score and kind of the entities similar to a text. Points that name no entity are passed
over. -/
def findSimilar (index : VectorIndex) (text : String) (kinds : List String) (limit : Int)
    (threshold : Float) : Work (List (Json × Float × Json)) := do
  let vector ← index.embed text
  index.ensureCollection
  let points ← Work.ofDatabase
    (IndexWork.ask (.query index.collection { vector, kinds, limit, threshold }))
  return points.filterMap fun point =>
    let id := (point.payload.get? "entity_id").getD .null
    if id.isTruthy then
      some (id, point.score, (point.payload.get? "entity_type").getD .null)
    else none

/-- Ends the connection to the database. -/
def close : Work Unit := do
  if (← get).connected then
    Work.ofReply (IndexWork.ask .close)
    modify fun state => { state with connected := false }

end VectorIndex

end CodeGraph
