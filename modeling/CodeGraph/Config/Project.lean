import CodeGraph.Config.Search
import CodeGraph.Files.Tree
import CodeGraph.Text.Alnum

namespace CodeGraph

/-- The directory in which a project keeps its configuration and graph. -/
def configDirectoryName : String := ".repo-graph"

/-- The configuration of a project. -/
structure ProjectConfig where
  name : String
  path : String
  /-- Where the graph is stored, seen from the project. -/
  databasePath : String := configDirectoryName ++ "/graph.db"
  hooks : HookConfig := {}
  linking : LinkingConfig := {}
  qdrant : QdrantConfig := {}
  embeddings : EmbeddingConfig := {}
  description : Option String := none
  version : String := "1.0.0"
deriving Repr

namespace ProjectConfig

/-- Project names hold letters, numbers, dashes, underscores, blanks and dots, and not only the
latter. -/
def isName (s : String) : Bool :=
  let letters := s.toList.filter fun c => !(c == '-' || c == '_' || c == ' ' || c == '.')
  !letters.isEmpty && letters.all Text.isAlnum

def nameReader : Reader String :=
  Reader.refine Reader.trimmed fun s =>
    if isName s then .ok (Text.trim s)
    else .issue
      (.refused "Project name must be alphanumeric with dashes, underscores, or spaces")

/-- An existing directory, as an absolute path. -/
def directoryReader (tree : FileTree) (read : Reader String) : Reader String :=
  Reader.refine read fun path =>
    match tree.look path with
    | .error cause => .issue (.unreachable cause)
    | .ok none => .issue (.refused s!"Project path does not exist: {path}")
    | .ok (some .directory) => .ok (Path.resolve tree.workingDirectory path)
    | .ok (some (.file _ _)) => .issue (.refused s!"Project path is not a directory: {path}")

/-- The name of the project in calls of tools and in records. -/
def projectId (config : ProjectConfig) : String :=
  if config.hooks.projectId == "" then config.name else config.hooks.projectId

def configDirectory (config : ProjectConfig) : String :=
  Path.join config.path configDirectoryName

def configFile (config : ProjectConfig) : String :=
  Path.join config.configDirectory "config.json"

/-- The absolute path of the stored graph. -/
def databaseFile (config : ProjectConfig) : String :=
  Path.join config.path config.databasePath

/-- Whether the project has a configuration file. -/
def isInitialized (config : ProjectConfig) (tree : FileTree) : Bool :=
  tree.has config.configFile

/-- The fields of a configuration. Its directory, for which there may be another reader of paths, has to
exist in the file tree. -/
def schema (tree : FileTree) (readPath : Reader String := Reader.pathTrimmed) :
    Schema ProjectConfig where
  title := "ProjectConfig"
  assignment := .checked
  initial := { name := "", path := "" }
  derived := [.of "project_id" (.str ·.projectId),
    .of "is_initialized" fun config => config.isInitialized tree]
  fields := [
    .required "name" nameReader (·.name) .str fun v c => { c with name := v },
    .required "path" (directoryReader tree readPath) (·.path) .str fun v c => { c with path := v },
    .optional "database_path" Reader.pathTrimmed (·.databasePath) .str
      fun v c => { c with databasePath := v },
    .optional "hooks" HookConfig.schema.read (·.hooks) HookConfig.toJson
      fun v c => { c with hooks := v },
    .optional "linking" LinkingConfig.schema.read (·.linking) LinkingConfig.schema.toJson
      fun v c => { c with linking := v },
    .optional "qdrant" QdrantConfig.schema.read (·.qdrant) QdrantConfig.schema.toJson
      fun v c => { c with qdrant := v },
    .optional "embeddings" EmbeddingConfig.schema.read (·.embeddings) EmbeddingConfig.schema.toJson
      fun v c => { c with embeddings := v },
    .optional "description" (Reader.nullable Reader.trimmed) (·.description) Json.ofText?
      fun v c => { c with description := v },
    .optional "version" Reader.trimmed (·.version) .str fun v c => { c with version := v }]

/-- The way to make a configuration from an object. -/
def objectMaker : Maker where
  takes := ["data"]
  needs := ["data"]
  value given := .ok ((Members.get? given "data").getD .null)

def toJson (config : ProjectConfig) : Json :=
  (schema {}).toJson config

end ProjectConfig

end CodeGraph
