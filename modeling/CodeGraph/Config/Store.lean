import CodeGraph.Config.Defaults
import CodeGraph.Config.Override
import CodeGraph.Config.Template
import CodeGraph.Json.Reader
import CodeGraph.Json.Writer
import CodeGraph.Schema.Held

namespace CodeGraph

/-- Why a project has no configuration. -/
inductive ConfigFault where
  | invalid (cause : Invalid)
  /-- A value stands where an object is needed. -/
  | misshapen
  | file (cause : FileError)
  | noProject (path : String)
deriving Repr

def ConfigFault.message : ConfigFault → String
  | .invalid cause => cause.message
  | .misshapen => "a value stands where an object is needed"
  | .file cause => cause.message
  | .noProject path => s!"Project path does not exist: {path}"

/-- What is wrong with the values of a configuration, or the path that could not be followed in the
check. -/
def ConfigFault.ofInvalid (cause : Invalid) : ConfigFault :=
  match cause.fileError? with
  | some cause => .file cause
  | none => .invalid cause

/-- Puts values at places, one after another. -/
def Json.setAll? (assignments : List (List String × Json)) (value : Json) : Option Json :=
  assignments.foldlM (fun value entry => entry.2.setAt? entry.1 value) value

namespace ProjectConfig

/-- The configuration that an object describes for a directory, with the variables of the environment
put before it. -/
def described (tree : FileTree) (environment : Environment) (path : String) (value : Json) :
    Except ConfigFault ProjectConfig :=
  let overrides := Defaults.variablePlaces.filterMap fun entry =>
    (environment.get? entry.1).map fun text => (keysOf entry.2, Json.ofSetting text)
  match value.setAll? (overrides ++ [(["path"], .str path)]) with
  | none => .error .misshapen
  | some value => ((schema tree Reader.path).validate value).mapError .ofInvalid

/-- The values for the places in a configuration. -/
def places (path name : String) : List (String × String) :=
  [("project_name", Text.replaceChar '_' '-' (Text.replaceChar ' ' '-' (Text.lower name))),
    ("project_path", path)]

/-- The configuration of a new project. -/
def new (settings : GlobalSettings) (tree : FileTree) (environment : Environment)
    (path name : String) : Except ConfigFault ProjectConfig :=
  let seeds := [(["hooks", "server_url"], Json.str settings.defaultServerUrl),
    (["qdrant", "url"], .str settings.defaultQdrantUrl),
    (["embeddings", "model_name"], .str settings.defaultEmbeddingModel)]
  match (Template.fillJson (places path name) (.obj Defaults.project)).setAll? seeds with
  | none => .error .misshapen
  | some value => described tree environment path value

/-- The configuration that the text of a file describes, if it describes one. -/
def ofText (tree : FileTree) (environment : Environment) (path name text : String) :
    Except ConfigFault (Option ProjectConfig) :=
  match Json.parse text with
  | .error _ => .ok none
  | .ok value =>
    match described tree environment path (Template.fillJson (places path name) value) with
    | .ok config => .ok (some config)
    | .error (.invalid _) => .ok none
    | .error fault => .error fault

/-- The configuration that the bytes of a file describe, if they describe one. -/
def ofBytes (tree : FileTree) (environment : Environment) (path name : String) (bytes : ByteArray) :
    Except ConfigFault (Option ProjectConfig) :=
  match String.fromUTF8? bytes with
  | none => .ok none
  | some text => ofText tree environment path name text

/-- The configuration that the project in a directory has, or that a new one there gets. -/
def stored (settings : GlobalSettings) (tree : FileTree) (environment : Environment)
    (path name : String) : Except ConfigFault ProjectConfig := do
  let file := Path.join (Path.join path configDirectoryName) "config.json"
  match ← (tree.look file).mapError .file with
  | some .directory => throw (.file (.isDirectory file))
  | none => new settings tree environment path name
  | some (.file bytes _) =>
    match ← ofBytes tree environment path name bytes with
    | some config => pure config
    | none => new settings tree environment path name

/-- The tree with the configuration written to its file. -/
def write (config : ProjectConfig) (tree : FileTree) : Except FileError FileTree := do
  let tree ← tree.makeDirectory config.configDirectory
  tree.write config.configFile (config.toJson.indented false)

/-- The configuration with a checked value at a place. -/
def assignAt (tree : FileTree) (config : ProjectConfig) (value : Json) :
    List String → Except AssignFault ProjectConfig
  | [field] => (schema tree).assign config field value
  | ["hooks", field] =>
    (HookConfig.schema.assign config.hooks field value).map fun hooks => { config with hooks }
  | ["linking", field] =>
    (LinkingConfig.schema.assign config.linking field value).map fun linking =>
      { config with linking }
  | ["qdrant", field] =>
    (QdrantConfig.schema.assign config.qdrant field value).map fun qdrant => { config with qdrant }
  | ["embeddings", field] =>
    (EmbeddingConfig.schema.assign config.embeddings field value).map fun embeddings =>
      { config with embeddings }
  | _ => .error .fixed

end ProjectConfig

/-- Configurations that were made, and those of them that are kept by the path of their project. One
that is kept under several paths is changed under all of them. -/
structure ConfigStore where
  settings : GlobalSettings
  made : List ProjectConfig := []
  kept : List (String × Nat) := []
deriving Repr

namespace ConfigStore

/-- A project without a name of its own is called like its directory. -/
def nameFor (path : String) (name : Option String) : String :=
  match name.filter (· != "") with
  | some name => name
  | none => Text.replaceChar ' ' '-' (Text.lower (Path.name path))

/-- Keeps a configuration under a path. -/
def keep (store : ConfigStore) (path : String) (number : Nat) : ConfigStore :=
  { store with kept := store.kept.filter (·.1 != path) ++ [(path, number)] }

/-- Adds a configuration, which gets the next number. -/
def add (store : ConfigStore) (config : ProjectConfig) : Nat × ConfigStore :=
  (store.made.length, { store with made := store.made ++ [config] })

/-- The configuration of the project in a directory, by its number. -/
def load (store : ConfigStore) (tree : FileTree) (environment : Environment) (path : String)
    (name : Option String) : Except ConfigFault (Nat × ConfigStore) := do
  let path ← (tree.resolve path).mapError .file
  match store.kept.lookup path with
  | some number => return (number, store)
  | none =>
    let config ← ProjectConfig.stored store.settings tree environment path (nameFor path name)
    let (number, store) := store.add config
    return (number, store.keep path number)

/-- Adds the configuration of a new project in a directory, which is not kept. -/
def create (store : ConfigStore) (tree : FileTree) (environment : Environment) (path name : String) :
    Except ConfigFault (Nat × ConfigStore) := do
  let path ← (tree.resolve path).mapError .file
  return store.add (← ProjectConfig.new store.settings tree environment path name)

/-- Saves a configuration to its file and keeps it under the path of its project. -/
def save (store : ConfigStore) (tree : FileTree) (number : Nat) :
    Except FileError (ConfigStore × FileTree) :=
  match store.made[number]? with
  | none => .ok (store, tree)
  | some config => do
    let tree ← config.write tree
    pure (store.keep config.path number, tree)

/-- Loads the configuration of a project and saves it, unless the project already has one that is not
to be written over. -/
def setUp (store : ConfigStore) (tree : FileTree) (environment : Environment) (path : String)
    (name : Option String) (overwrite : Bool) :
    Except ConfigFault Nat × ConfigStore × FileTree :=
  let loaded : Except ConfigFault (Nat × ConfigStore) := do
    let path ← (tree.resolve path).mapError .file
    match ← (tree.look path).mapError .file with
    | none => throw (.noProject path)
    | some _ => store.load tree environment path name
  match loaded with
  | .error fault => (.error fault, store, tree)
  | .ok (number, store) =>
    match store.made[number]? with
    | none => (.ok number, store, tree)
    | some config =>
      if config.isInitialized tree && !overwrite then (.ok number, store, tree)
      else
        match tree.makeDirectory config.configDirectory with
        | .error cause => (.error (.file cause), store, tree)
        | .ok tree =>
          match store.save tree number with
          | .ok (store, tree) => (.ok number, store, tree)
          | .error _ => (.ok number, store, tree)

end ConfigStore

end CodeGraph
