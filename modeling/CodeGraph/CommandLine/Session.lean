import CodeGraph.CommandLine.Arguments
import CodeGraph.Config.Logging
import CodeGraph.Config.Store
import CodeGraph.Project.Database
import CodeGraph.Project.Services

namespace CodeGraph.CommandLine

/-- What commands ask of the outside. -/
inductive Outside where
  | lookup (request : LookupRequest)
  | search (search : SimilaritySearch)
  /-- Puts entities into the similarity index. -/
  | index (entities : List Entity)

def Outside.Reply : Outside → Type
  | .lookup request => request.Reply
  | .search _ => Except StoreFailure (List SimilarityMatch)
  | .index _ => Except StoreFailure (Outcome Nat)

/-- Where and when a command is run. -/
structure Workplace where
  now : DateTime
  home : String := "/"
  environment : Environment := []
  tree : FileTree := {}
  databases : Databases := []

/-- The workplace as it is now, and what a command has printed: items for a reader, and a value or a
text for other programs. -/
structure Session extends Workplace where
  printed : List Printed := []
  value : Option Json := none
  text : String := ""

/-- Why a command broke off. -/
inductive Fault where
  | settings (cause : Invalid)
  | config (cause : ConfigFault)
  | invalid (cause : Invalid)
  | file (cause : FileError)
  | database (cause : DatabaseFault)
  | store (cause : StoreFailure)
  | record (cause : RecordFailure)
  | git (cause : Git.Refusal)
  | impact (cause : Impact.Fault)
deriving Repr

def Fault.message : Fault → String
  | .settings cause | .invalid cause => cause.message
  | .config cause => cause.message
  | .file cause => cause.message
  | .database cause => cause.message
  | .store cause => cause.message
  | .record cause => cause.message
  | .git cause => cause.message
  | .impact cause => cause.message

/-- How a command ends before it is done. -/
inductive Ending where
  | usage (fault : UsageFault)
  /-- The reason has been printed. -/
  | refused
  | broken (fault : Fault)
deriving Repr

/-- The exit code of a command that ended early. -/
def Ending.exitCode : Ending → Nat
  | .usage _ => 2
  | .refused | .broken _ => 1

/-- The work of a command. -/
abbrev Command := ExceptT Ending (StateT Session (Program Outside Outside.Reply))

namespace Command

/-- Prints an item. -/
def print (item : Printed) : Command Unit :=
  modify fun session => { session with printed := session.printed ++ [item] }

/-- Prints a line. -/
def say (line : String) : Command Unit :=
  print (.line line)

/-- Prints a line for each text. -/
def sayEach (line : String → String) (texts : List String) : Command Unit :=
  texts.forM fun text => say (line text)

def warn (warnings : List String) : Command Unit :=
  sayEach (fun warning => coloured "yellow" ("⚠️  " ++ warning)) warnings

/-- Breaks off with a message. -/
def refuse {α : Type} (message : String) : Command α := do
  say (coloured "red" ("❌ " ++ message))
  throw .refused

/-- A value, or the end of the command. -/
def orBreak {α ε : Type} (fault : ε → Fault) : Except ε α → Command α
  | .ok a => return a
  | .error e => throw (.broken (fault e))

/-- Runs what looks things up. -/
def ofLookup {α : Type} (lookup : Lookup α) : Command α :=
  liftM (lookup.interpret fun request => .ask (.lookup request) .done :
    Program Outside Outside.Reply α)

/-- Runs commands of git. -/
def ofGit {α : Type} (command : Git.Command α) : Command α :=
  ofLookup command.run >>= orBreak .git

/-- The settings of the user. -/
def settings : Command GlobalSettings := do
  let session ← get
  orBreak .settings
    (GlobalSettings.load session.home [] session.environment (session.tree.read? ".env"))

/-- Opens the log file, if the settings ask for one. -/
def openLog : Command Unit := do
  let settings ← settings
  let (_, tree) ← orBreak .file (Logging.openFile settings (← get).tree)
  modify fun session => { session with tree }

/-- The configuration of the project in the working directory. -/
def config : Command ProjectConfig := do
  let settings ← settings
  let session ← get
  let directory := session.tree.workingDirectory
  orBreak .config (ProjectConfig.stored settings session.tree session.environment directory
    (ConfigStore.nameFor directory none))

/-- Opens the database of a project, and gives the path by which it is known. -/
def openDatabase (config : ProjectConfig) : Command String := do
  let session ← get
  let (path, tree) ←
    orBreak .database (session.tree.openDatabase session.databases config.databaseFile)
  modify fun session => { session with tree }
  return path

/-- The database that is known by a path. -/
def database (path : String) : Command Database :=
  return ((← get).databases.lookup path).getD {}

def setDatabase (path : String) (database : Database) : Command Unit :=
  modify fun session => { session with databases := session.databases.set path database }

/-- Answers a request of a task from the stored graph. Searches are put to the outside. -/
def answer (now : DateTime) : (request : GraphRequest) →
    StateT GraphStore (Program Outside Outside.Reply) (Except StoreFailure request.Value)
  | .search search => liftM (.ask (.search search) .done :
      Program Outside Outside.Reply (Except StoreFailure (List SimilarityMatch)))
  | request => modifyGet (GraphStore.respond now (fun _ => .ok []) request)

/-- Runs a task on the graph of a project. -/
def onGraph {α : Type} (config : ProjectConfig) (task : GraphTask α) :
    Command (Except StoreFailure α) := do
  let path ← openDatabase config
  let stored ← database path
  let now := (← get).now
  let (result, graph) ←
    liftM ((task.run.interpret (answer now)).run stored.graph :
      Program Outside Outside.Reply (Except StoreFailure α × GraphStore))
  setDatabase path { stored with graph }
  return result

/-- Runs work with the records of hooks in the database at a path. -/
def onHooks {α : Type} (path : String) (work : HookWork α) : Command α := do
  let stored ← database path
  let (a, desk) ← ofLookup (work.run { store := stored.hooks })
  setDatabase path { stored with hooks := desk.store }
  modify fun session => { session with printed := session.printed ++ desk.printed }
  return a

end Command

end CodeGraph.CommandLine
