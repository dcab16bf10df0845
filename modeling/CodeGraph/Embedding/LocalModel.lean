import CodeGraph.Config.Search
import CodeGraph.Embedding.Embedder
import CodeGraph.Program
import CodeGraph.Time.DateTime

namespace CodeGraph

/-- What there is on a machine to run a model on. -/
structure Machine where
  system : String := "Linux"
  architecture : String := "x86_64"
  cuda : Bool := false
  /-- Whether the name of the graphics card can be found out. -/
  cudaAnswers : Bool := true
  /-- Whether Metal can be used, on systems that know of it. -/
  metal : Option Bool := none
deriving Repr, DecidableEq

/-- The device on which a model runs fastest. -/
def Machine.device (machine : Machine) : String :=
  if machine.cuda then (if machine.cudaAnswers then "cuda" else "cpu")
  else if machine.system == "Darwin" && ["arm64", "aarch64"].contains machine.architecture &&
      machine.metal == some true then "mps"
  else "cpu"

namespace EmbeddingConfig

/-- The device that a configuration names, if it does. -/
def namedDevice? (config : EmbeddingConfig) : Option String :=
  config.device.filter (· != "")

/-- The device of a configuration, by what the machine reports. -/
def deviceOn (config : EmbeddingConfig) (machine : Machine) : String :=
  config.namedDevice?.getD
    (if machine.cuda then "cuda" else if machine.metal == some true then "mps" else "cpu")

end EmbeddingConfig

/-- What is asked of the library of models. -/
inductive ModelRequest where
  | load (name device : String) (cache : Option String)
  /-- Prepares a loaded model for use. -/
  | eval
  | encode (texts : List String) (batchSize : Int)
  /-- Moves a model off its device. -/
  | moveOff
  | emptyCache
deriving Repr

def ModelRequest.Reply : ModelRequest → Type
  | .load _ _ _ | .moveOff => Except String Unit
  | .encode _ _ => Except String (List Embedding)
  | .eval | .emptyCache => Unit

/-- Whether a model is loaded, on which device, and when one was last loaded. -/
structure ModelState where
  isLoaded : Bool := false
  device : Option String := none
  loadedAt : Option DateTime := none
deriving Repr

/-- Work with a model. -/
abbrev ModelWork := StateT ModelState (Program ModelRequest ModelRequest.Reply)

/-- Puts a request to the library of models. -/
def ModelWork.ask (request : ModelRequest) : ModelWork request.Reply :=
  liftM (Program.ask request .done : Program ModelRequest ModelRequest.Reply request.Reply)

/-- Why a model gives no embeddings. -/
inductive EncodeFault where
  | notLoaded
  | model (reason : String)
  | rows (fault : RowFault)
deriving Repr, DecidableEq

def EncodeFault.message : EncodeFault → String
  | .notLoaded => "Model not loaded"
  | .model reason => reason
  | .rows fault => fault.message

/-- A model on a machine. -/
structure LocalModel where
  config : EmbeddingConfig := {}
  machine : Machine := {}

namespace LocalModel

/-- Loads the model, unless it is loaded. -/
def load (model : LocalModel) (now : DateTime) : ModelWork Bool := do
  if (← get).isLoaded then return true
  let device := model.config.namedDevice?.getD model.machine.device
  modify fun state => { state with device := some device }
  match ← ModelWork.ask (.load model.config.modelName device
      (model.config.cacheDirectory.filter (· != ""))) with
  | .error _ => return false
  | .ok () =>
    ModelWork.ask .eval
    modify fun state => { state with isLoaded := true, loadedAt := some now }
    return true

/-- Gives the memory of the model back. -/
def unload (model : LocalModel) : ModelWork Unit := do
  if !(← get).isLoaded then return ()
  match ← ModelWork.ask .moveOff with
  | .ok () => if model.machine.cuda then ModelWork.ask .emptyCache
  | .error _ => pure ()
  modify fun state => { state with isLoaded := false, device := none }

/-- The embeddings of texts without the blanks around them, in single precision. -/
def generate (model : LocalModel) (texts : List String) :
    ModelWork (Except EncodeFault (List Embedding)) := do
  if !(← get).isLoaded then return .error .notLoaded
  let cleaned := texts.map fun s => String.ofList (Text.trimChars Text.isBlank s.toList)
  match ← ModelWork.ask (.encode cleaned model.config.batchSize) with
  | .error reason => return .error (.model reason)
  | .ok embeddings =>
    let rows := Rows.ofEmbeddings embeddings >>= fun rows =>
      if model.config.normalizeEmbeddings then Rows.normalize rows else .ok rows
    return (rows.map Rows.toEmbeddings).mapError .rows

/-- The model as an embedder. -/
def embedder (model : LocalModel) (now : DateTime) : Embedder ModelWork where
  name := model.config.modelName
  dimensions := model.config.dimensions
  isLoaded := (·.isLoaded) <$> get
  load := .ok <$> model.load now
  generate texts := (·.mapError (·.message)) <$> model.generate texts

/-- The model and its state as an object. -/
def info (model : LocalModel) (state : ModelState) : Json :=
  .obj [("model_name", .str model.config.modelName), ("dimensions", .int model.config.dimensions),
    ("is_loaded", .bool state.isLoaded), ("load_time", Json.ofText? (state.loadedAt.map (·.text))),
    ("device", Json.ofText? state.device),
    ("normalize_embeddings", .bool model.config.normalizeEmbeddings),
    ("batch_size", .int model.config.batchSize)]

end LocalModel

end CodeGraph
