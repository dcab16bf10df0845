import CodeGraph.Embedding.LocalModel
import CodeGraph.Embedding.VectorIndex
import CodeGraph.Json.Access

namespace CodeGraph

namespace Json

/-- The numbers that a list holds. -/
def embedding (value : Json) : Embedding :=
  (value.asList?.getD []).filterMap asFloat?

/-- Done, unless a member gives the reason why not. -/
def doneUnless (value : Json) (key : String) : Except String Unit :=
  match value.wordAt? key with
  | some reason => .error reason
  | none => .ok ()

end Json

def ModelRequest.toJson : ModelRequest → Json
  | .load name device cache => .arr [.str "load", .str name, .str device, Json.ofText? cache]
  | .eval => .arr [.str "eval"]
  | .encode texts batchSize =>
    .arr [.str "encode", Json.strings texts, .int batchSize, .bool false, .bool true]
  | .moveOff => .arr [.str "cpu"]
  | .emptyCache => .arr [.str "empty_cache"]

/-- A request to the database with its name and arguments. -/
def IndexRequest.toJson? (request : IndexRequest) : Option Json :=
  request.call?.map fun (name, arguments) => .obj (("call", .str name) :: arguments)

namespace Replay

/-- The recorded embedding of a text. -/
def vector? (recorded : Json) (text : String) : Option Embedding :=
  ((recorded.field "vectors").get? text).map Json.embedding

/-- What a recorded model answers. Texts without an embedding of their own have a common one. -/
def modelReply (recorded : Json) : (request : ModelRequest) → request.Reply
  | .load _ _ _ => recorded.doneUnless "load_fails"
  | .eval => ()
  | .encode texts _ => do
    recorded.doneUnless "encode_fails"
    let common := (recorded.get? "default").elim [3.0, 4.0] Json.embedding
    return texts.map fun text => (vector? recorded text).getD common
  | .moveOff => recorded.doneUnless "cpu_fails"
  | .emptyCache => ()

/-- Answers a request to a model, and adds it to the requests made. -/
def respondModel (recorded : Json) (request : ModelRequest) (made : List Json) :
    request.Reply × List Json :=
  (modelReply recorded request, made ++ [request.toJson])

/-- The embeddings of a recorded embedder. Texts without one have their length and a one. -/
def embeddings (embedder : Json) (texts : List String) : Except String (List Embedding) := do
  embedder.doneUnless "fails"
  if embedder.flagAt "empty" then return []
  else return texts.map fun text => (vector? embedder text).getD [Float.ofNat text.length, 1.0]

/-- What a recorded database and embedder answer. -/
def indexReply (recorded : Json) : (request : IndexRequest) → request.Reply
  | .hasCollection _ => do
    (recorded.field "fail").doneUnless "collection_exists"
    return recorded.flagAt "exists"
  | .createCollection _ _ _ => (recorded.field "fail").doneUnless "create_collection"
  | .upsert _ _ => (recorded.field "fail").doneUnless "upsert"
  | .delete _ _ => (recorded.field "fail").doneUnless "delete"
  | .query _ _ => do
    (recorded.field "fail").doneUnless "query_points"
    return (recorded.itemsAt "points").map fun point =>
      { payload := point.field "payload", score := point.floatAt "score" }
  | .close => (recorded.field "fail").doneUnless "close"
  | .loadModel => .ok ((recorded.field "embedder").flagAt "loads" true)
  | .generate texts => embeddings (recorded.field "embedder") texts

/-- Answers a request of an index, and adds it to the requests made to the database. -/
def respondIndex (recorded : Json) (request : IndexRequest) (made : List Json) :
    request.Reply × List Json :=
  (indexReply recorded request, made ++ request.toJson?.toList)

end Replay

end CodeGraph
