import CodeGraph.Config.Settings

namespace CodeGraph.Defaults

/-- The place for the name of the project. -/
def projectName : String := "$\x7bproject_name\x7d"

/-- The place for the directory of the project. -/
def projectPath : String := "$\x7bproject_path\x7d"

/-- The members that start out with a value of their own. -/
def without (name : String) (value : Json) : Json :=
  match value with
  | .obj members => .obj (Members.erase members name)
  | value => value

/-- The parts of a new configuration. -/
def parts : Members :=
  [("hooks", HookConfig.toJson { projectId := projectName }),
    ("linking", LinkingConfig.schema.toJson {}),
    ("qdrant", without "api_key"
      (QdrantConfig.schema.toJson { collectionName := projectName ++ "-entities" })),
    ("embeddings", without "cache_dir" (EmbeddingConfig.schema.toJson {}))]

/-- Where the graph is stored, and the version. -/
def databasePath : Json := .str (configDirectoryName ++ "/graph.db")

def version : Json := .str "1.0.0"

/-- A new configuration. -/
def project : Members :=
  [("name", .str projectName), ("path", .str projectPath), ("database_path", databasePath)] ++ parts ++
    [("description", .null), ("version", version)]

/-- All that has a default value. -/
def settings : Members :=
  parts ++ [("project", .obj [("version", version), ("database_path", databasePath)]),
    ("logging", .obj [("level", .str "INFO"), ("log_to_file", .bool false)])]

/-- The variables that go before a configuration, and the place that each one sets. -/
def variablePlaces : List (String × String) :=
  [("SERVER_URL", "hooks.server_url"), ("PROJECT_ID", "hooks.project_id"),
    ("VERBOSITY", "hooks.verbosity"), ("MAX_FILES_TO_INDEX", "hooks.max_files_to_index"),
    ("MIN_SIMILARITY", "linking.min_similarity"), ("QDRANT_URL", "qdrant.url"),
    ("QDRANT_TIMEOUT", "qdrant.timeout"), ("EMBEDDING_MODEL", "embeddings.model_name"),
    ("EMBEDDING_DEVICE", "embeddings.device"), ("DATABASE_PATH", "database_path")].map fun entry =>
    (GlobalSettings.variablePrefix ++ entry.1, entry.2)

/-- All defaults as one object. -/
def toJson : Json :=
  .obj [("project", .obj project), ("settings", .obj settings),
    ("env", .obj (variablePlaces.map fun entry => (entry.1, .str entry.2)))]

end CodeGraph.Defaults
