import CodeGraph.Config.Project
import CodeGraph.Config.VariableFile

namespace CodeGraph

/-- Settings for all projects. -/
structure GlobalSettings where
  defaultServerUrl : String := "http://localhost:3000"
  defaultQdrantUrl : String := "http://localhost:6333"
  defaultEmbeddingModel : String := "sentence-transformers/all-MiniLM-L6-v2"
  configDirectory : String
  logLevel : String := "INFO"
  logToFile : Bool := false
deriving Repr

namespace GlobalSettings

def logLevels : List String := ["DEBUG", "INFO", "WARNING", "ERROR", "CRITICAL"]

/-- The fields of the settings, for a user with a home directory. -/
def schema (home : String) : Schema GlobalSettings where
  title := "GlobalSettings"
  initial := { configDirectory := Path.join home configDirectoryName }
  fields :=
    let level := Reader.refine Reader.text fun s =>
      if logLevels.contains s then .ok s else .issue .stringPattern
    [.optional "default_server_url" Reader.text (·.defaultServerUrl) .str
        fun v s => { s with defaultServerUrl := v },
      .optional "default_qdrant_url" Reader.text (·.defaultQdrantUrl) .str
        fun v s => { s with defaultQdrantUrl := v },
      .optional "default_embedding_model" Reader.text (·.defaultEmbeddingModel) .str
        fun v s => { s with defaultEmbeddingModel := v },
      .optional "global_config_dir" Reader.path (·.configDirectory) .str
        fun v s => { s with configDirectory := v },
      .optional "log_level" level (·.logLevel) .str fun v s => { s with logLevel := v },
      .optional "log_to_file" Reader.bool (·.logToFile) .bool fun v s => { s with logToFile := v }]

def variablePrefix : String := "REPO_GRAPH_"

/-- What belongs to a name that is given in lower case. The last one set counts. -/
def lookup? {α : Type} (named : List (String × α)) (name : String) : Option α :=
  (named.reverse.find? fun entry => Text.lower entry.1 == name).map (·.2)

/-- The settings for what is given, the environment, and the file of variables, in which HOME is the
home directory unless the environment sets it. -/
def load (home : String) (given : Members) (environment : Environment) (file : Option String) :
    Except Invalid GlobalSettings :=
  let settings := schema home
  let usable := ("HOME", home) :: environment
  let fromFile := (file.map (VariableFile.read usable)).getD []
  let members := settings.fields.filterMap fun field =>
    let variableName := Text.lower variablePrefix ++ field.name
    let value? := (given.get? field.name).orElse fun _ =>
      ((lookup? environment variableName).orElse fun _ =>
        (lookup? fromFile variableName).join).map .str
    value?.map (field.name, ·)
  settings.validate (.obj members)

end GlobalSettings

end CodeGraph
