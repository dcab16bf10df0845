import CodeGraph.Config.HookConfig

namespace CodeGraph

/-- Thresholds of linking by similarity. -/
structure LinkingConfig where
  relationshipType : String := "RELATES_TO"
  minSimilarity : Float := 0.75
  maxLinksPerEntity : Int := 5
  pruneBelow : Float := 0.6
  entityTypes : List String := ["function", "class", "requirement", "concept", "document"]
deriving Repr

def LinkingConfig.schema : Schema LinkingConfig where
  title := "LinkingConfig"
  assignment := .checked
  initial := {}
  fields :=
    let unit := Reader.refine Reader.float Reader.unit
    [.optional "relationship_type" Reader.text (·.relationshipType) .str
        fun v c => { c with relationshipType := v },
      .optional "min_similarity" unit (·.minSimilarity) .float
        fun v c => { c with minSimilarity := v },
      .optional "max_links_per_entity" (Reader.refine Reader.int (Reader.between 1 100))
        (·.maxLinksPerEntity) .int fun v c => { c with maxLinksPerEntity := v },
      .optional "prune_below" unit (·.pruneBelow) .float fun v c => { c with pruneBelow := v },
      .optional "entity_types" (Reader.list Reader.text) (·.entityTypes) Json.strings
        fun v c => { c with entityTypes := v }]

/-- The vector database. -/
structure QdrantConfig where
  url : String := "http://localhost:6333"
  apiKey : Option String := none
  timeout : Float := 60.0
  collectionName : String := "repo-graph-entities"
  vectorSize : Int := 384
  distanceMetric : String := "cosine"
deriving Repr

namespace QdrantConfig

/-- The distances that vectors can be compared by, in any case. -/
def metric : Reader String :=
  Reader.refine Reader.trimmed fun s =>
    let name := Text.lower s
    if ["cosine", "euclidean", "dot"].contains name then .ok name
    else .issue (.refused "Distance metric must be one of: \x7b'cosine', 'euclidean', 'dot'\x7d")

def schema : Schema QdrantConfig where
  title := "QdrantConfig"
  assignment := .checked
  initial := {}
  fields := [
    .optional "url"
      (Reader.address Reader.trimmed "Qdrant URL must start with http:// or https://") (·.url) .str
      fun v c => { c with url := v },
    .optional "api_key" (Reader.nullable Reader.trimmed) (·.apiKey) Json.ofText?
      fun v c => { c with apiKey := v },
    .optional "timeout" Reader.float (·.timeout) .float fun v c => { c with timeout := v },
    .optional "collection_name" Reader.trimmed (·.collectionName) .str
      fun v c => { c with collectionName := v },
    .optional "vector_size" Reader.int (·.vectorSize) .int fun v c => { c with vectorSize := v },
    .optional "distance_metric" metric (·.distanceMetric) .str
      fun v c => { c with distanceMetric := v }]

/-- The collection that holds the entities of a project. -/
def collectionFor (project : String) : String :=
  Text.replaceChar '_' '-' (Text.replaceChar ' ' '-' (Text.lower project)) ++ "-entities"

end QdrantConfig

/-- The embedding model. -/
structure EmbeddingConfig where
  modelName : String := "sentence-transformers/all-MiniLM-L6-v2"
  dimensions : Int := 384
  cacheDirectory : Option String := none
  /-- The device to run on, found out if none is given. -/
  device : Option String := none
  batchSize : Int := 32
  normalizeEmbeddings : Bool := true
deriving Repr

def EmbeddingConfig.schema : Schema EmbeddingConfig where
  title := "EmbeddingConfig"
  assignment := .checked
  initial := {}
  fields := [
    .optional "model_name" Reader.trimmed (·.modelName) .str fun v c => { c with modelName := v },
    .optional "dimensions" (Reader.refine Reader.int (Reader.atLeast 1)) (·.dimensions) .int
      fun v c => { c with dimensions := v },
    .optional "cache_dir" (Reader.nullable Reader.pathTrimmed) (·.cacheDirectory) Json.ofText?
      fun v c => { c with cacheDirectory := v },
    .optional "device" (Reader.nullable Reader.trimmed) (·.device) Json.ofText?
      fun v c => { c with device := v },
    .optional "batch_size" (Reader.refine Reader.int (Reader.between 1 512)) (·.batchSize) .int
      fun v c => { c with batchSize := v },
    .optional "normalize_embeddings" Reader.bool (·.normalizeEmbeddings) .bool
      fun v c => { c with normalizeEmbeddings := v }]

end CodeGraph
