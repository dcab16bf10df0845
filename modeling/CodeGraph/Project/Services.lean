import CodeGraph.Config.Project
import CodeGraph.Embedding.LocalModel
import CodeGraph.Embedding.VectorIndex
import CodeGraph.Hooks.Handling
import CodeGraph.Linking.Linker
import CodeGraph.Tools.Client

namespace CodeGraph.ProjectConfig

/-- The server of tools, if the time for its calls is a number of seconds. -/
def toolClient (config : ProjectConfig) : Except NumberFault ToolClient := do
  return { server := config.hooks.serverUrl, timeout := .float (← config.hooks.timeoutSeconds) }

/-- What handles hooks. The server of tools is always there to be asked. -/
def hookHandler (config : ProjectConfig) : HookHandler :=
  { config := config.hooks }

def linker (config : ProjectConfig) : Linker :=
  { tag := config.linking.relationshipType }

/-- The embedding model on a machine. -/
def model (config : ProjectConfig) (machine : Machine := {}) : LocalModel :=
  { config := config.embeddings, machine }

/-- The collection that holds the project's entities. -/
def collection (config : ProjectConfig) : String :=
  if config.qdrant.collectionName == "" then QdrantConfig.collectionFor config.name
  else config.qdrant.collectionName

/-- The similarity index. -/
def index (config : ProjectConfig) : VectorIndex :=
  .new config.qdrant config.collection
    (some (config.embeddings.modelName, config.embeddings.dimensions))

/-- The parts as an object. -/
def services (config : ProjectConfig) : Except NumberFault Members := do
  let model := config.model
  let client ← config.toolClient
  return [("project_id", .str config.projectId), ("database", .str config.databaseFile),
    ("collection", .str config.index.collection), ("model", .str model.config.modelName),
    ("dimensions", .int model.config.dimensions),
    ("embedder_config", EmbeddingConfig.schema.toJson model.config),
    ("model_info", model.info {}), ("endpoint", .str client.endpoint),
    ("timeout", client.timeout), ("hooks", config.hookHandler.config.toJson),
    ("link_type", .str config.linker.tag)]

end CodeGraph.ProjectConfig
