import CodeGraph.CommandLine.Invocation
import CodeGraph.CommandLine.Session
import CodeGraph.Hooks.Script
import CodeGraph.Json.Access
import CodeGraph.Structure.Extraction
import CodeGraph.Structure.Languages
import CodeGraph.Structure.Writer
import CodeGraph.Text.Lines
import CodeGraph.Text.Utf8

namespace CodeGraph.CommandLine

namespace Command

/-- Checks and puts a value into the configuration of a new project, if one is given. -/
def assignGiven (config : ProjectConfig) (place : List String) (value : Option String) :
    Command ProjectConfig :=
  match value.filter (· != "") with
  | none => return config
  | some value => do
    match config.assignAt (← get).tree (.str value) place with
    | .ok config => return config
    | .error (.invalid cause) => throw (.broken (.invalid cause))
    | .error _ => return config

/-- Sets up the project in the working directory, with the given servers. -/
def setUp (serverUrl qdrantUrl : Option String) : Command ProjectConfig := do
  let store : ConfigStore := { settings := ← settings }
  let session ← get
  let (result, store, tree) := store.setUp session.tree session.environment
    session.tree.workingDirectory none true
  modify fun session => { session with tree }
  let number ← orBreak .config result
  match store.made[number]? with
  | none => throw .refused
  | some config => do
    let config ← assignGiven config ["hooks", "server_url"] serverUrl
    let config ← assignGiven config ["qdrant", "url"] qdrantUrl
    match config.write tree with
    | .error _ => refuse s!"Failed to create configuration: Could not write {config.configFile}"
    | .ok tree => do
      modify fun session => { session with tree }
      return config

/-- Makes the configuration of the project. -/
def init (force : Bool) (serverUrl qdrantUrl : Option String) : Command Unit := do
  let existing ← config
  if existing.isInitialized (← get).tree && !force then
    say (coloured "yellow" "⚠️  Project already initialized. Use --force to overwrite.")
  else
    say (coloured "blue" "🚀 Initializing repo-graph...")
    let failed (message : String) : Command ProjectConfig :=
      refuse s!"Failed to create configuration: {message}"
    let config ← tryCatch (setUp serverUrl qdrantUrl) fun
      | .broken (.settings cause) | .broken (.invalid cause) => failed cause.message
      | .broken (.config (.invalid cause)) => failed cause.message
      | .broken (.config (.noProject path)) => failed (ConfigFault.noProject path).message
      | ending => throw ending
    say (coloured "blue" s!"📂 Project: {config.name}")
    say (coloured "blue" s!"🗄️  Database: {config.databaseFile}")
    say (coloured "green" s!"✅ Created {config.configFile}")
    say ("\n" ++ coloured "blue" "Next steps:")
    say ("1. Install git hooks: " ++ coloured "bold" "repo-graph install-hooks")
    say ("2. Check impact of your branch: " ++ coloured "bold" "repo-graph impact")

/-- Changes the hook scripts of the repository. -/
def changeScripts
    (change : ScriptInstaller → FileTree → Except ScriptFailure InstallResult × FileTree) :
    Command InstallResult := do
  let config ← config
  let tree := (← get).tree
  let installer : ScriptInstaller :=
    { repository := tree.workingDirectory, config := config.hooks }
  let (result, tree) := change installer tree
  modify fun session => { session with tree }
  match result with
  | .ok result => return result
  | .error failure => refuse failure.message

/-- Installs the scripts of the enabled hooks. -/
def installHooks (force : Bool) : Command Unit := do
  let result ← changeScripts fun installer tree => installer.install force tree
  sayEach (fun hook => coloured "green" ("✅ Installed " ++ hook)) (result.installed.map (·.name))
  sayEach (fun reason => coloured "yellow" ("⚠️  Skipped " ++ reason)) result.skipped
  if !result.changed then say (coloured "dim" "No hooks installed")

/-- Removes the hook scripts. -/
def uninstallHooks : Command Unit := do
  let result ← changeScripts ScriptInstaller.uninstall
  sayEach (fun hook => coloured "green" ("🗑️  Removed " ++ hook)) (result.removed.map (·.name))
  sayEach (fun reason => coloured "yellow" ("⚠️  Kept " ++ reason)) result.skipped
  if !result.changed then say (coloured "dim" "No repo-graph hooks found")

/-- The commits before and after a hook: a checkout is told both, and a merge leaves the one before
it under a name. -/
def commits (hookType : HookType) (arguments : List String) (head : String) :
    Git.Command (Option String × String) :=
  match hookType, arguments with
  | .postCheckout, previous :: current :: _ => return (some previous, current)
  | .postMerge, _ => do
    let previous ← Git.resolve "ORIG_HEAD"
    return (if previous == "" then none else some previous, head)
  | _, _ => return (none, head)

/-- The event for which git runs a hook. -/
def event (hookType : HookType) (arguments : List String) : Command HookEvent := do
  let branch ← ofGit Git.currentBranch
  let head ← ofGit Git.headCommit
  let (previous, current) ← ofGit (commits hookType arguments head)
  let session ← get
  orBreak .invalid ((HookEvent.schema session.now).validate (.obj [("type", .str hookType.name),
    ("repository", .str session.tree.workingDirectory), ("current_branch", .str branch),
    ("current_commit", .str current), ("previous_commit", Json.ofText? previous)]))

/-- Prints what came of a hook. -/
def sayResult (hooks : HookConfig) (result : HookResult) : Command Unit := do
  if hooks.verbosity == .silent && result.success then return ()
  let label := s!"repo-graph {result.hookType.name}:"
  if result.success then say (coloured "dim" label ++ " " ++ result.message)
  else
    let message := if result.message == "" then "failed" else result.message
    say (coloured "red" s!"{label} {message}")
  warn result.warnings
  if hooks.notifyOnError then
    sayEach (fun error => coloured "red" ("❌ " ++ error)) result.errors

/-- Handles a hook. -/
def hook (hookType : HookType) (arguments : List String) : Command Unit := do
  let config ← config
  openLog
  let event ← event hookType arguments
  let path ← openDatabase config
  let result ← onHooks path (config.hookHandler.handle (← get).now event)
  sayResult config.hooks result
  if !result.success then throw .refused

/-- Prints a report for a reader. -/
def sayReport (report : ImpactReport) : Command Unit := do
  print (.panel s!"Impact: {report.baseBranch}...{report.targetBranch}"
    ("Risk Level: " ++ report.risk.label ++ "\nFiles: " ++ report.fileCounts ++ "\nAffected: " ++
      report.affectedCounts))
  sayEach (fun reason => "  • " ++ reason) report.reasons
  if !report.entities.isEmpty then
    print (.table {
      title := some "Affected Entities", columns := ["Name", "Type", "File", "Change", "Usages"]
      rows := report.entities.map fun entity =>
        [entity.name, entity.type, entity.filePath, entity.change.name, toString entity.usages] })
  if !report.suggestions.isEmpty then
    say ("\n" ++ coloured "blue" "Recommendations:")
    sayEach (fun suggestion => "  - " ++ suggestion) report.suggestions
  warn report.warnings

/-- Analyses what a change touches. -/
def impact (base : Option String) (target : String) (asJson save : Bool) : Command Unit := do
  let config ← config
  let base ← match base.filter (· != "") with
    | some base => pure base
    | none => ofGit Git.baseBranch
  let report ← ofLookup (Impact.analyze (← get).now true
    { project := config.projectId, baseBranch := base, targetBranch := target }).run >>= orBreak .impact
  if save then
    let path ← openDatabase config
    let stored ← database path
    setDatabase path { stored with hooks := stored.hooks.saveReport config.projectId report }
  if asJson then modify fun session => { session with value := some report.toJson.finite }
  else sayReport report

/-- Lists the latest runs of hooks. -/
def history (hookType : Option HookType) (limit : Int) : Command Unit := do
  let config ← config
  let stored ← database (← openDatabase config)
  let executions ← orBreak .record (stored.hooks.recent config.projectId hookType limit)
  if executions.isEmpty then say (coloured "dim" "No hook executions recorded")
  else
    print (.table {
      title := some "Hook Executions"
      columns := ["When", "Hook", "Branch", "Status", "Files", "Duration", "Message"]
      rows := executions.map fun execution =>
        [execution.timestamp.shortText, execution.hookType.name, execution.branch,
          if execution.success then coloured "green" "✅ ok" else coloured "red" "❌ failed",
          toString execution.filesIndexed, Decimal.fixed 0 execution.duration ++ "ms",
          execution.message] })

/-- The value in a file of JSON text. -/
def readJson (file : String) : Command Json := do
  match (← get).tree.bytes? file with
  | some bytes =>
    let unreadable (cause : String) : Command Json :=
      refuse s!"Cannot read {Path.normalize file}: {cause}"
    if let some fault := Text.utf8Fault? bytes.toList then unreadable fault.message
    else
      let text := Text.decodeUtf8 bytes.toList
      match Json.parse (String.ofList (Text.unifyLineEnds text.toList)) with
      | .ok value => return value
      | .error cause => unreadable cause.message
  | none => throw (.usage (.badValue "file" file))

/-- The first text that is not empty. -/
def firstFilled (texts : List String) (default : String) : String :=
  (texts.find? (· != "")).getD default

/-- The relationships as a table. -/
def relationshipTable (title : String) (relationships : List ExtractedRelationship) : Printed :=
  .table {
    title := some ("Relationships in " ++ title), columns := ["Type", "Source", "Target", "Weight"]
    rows := relationships.map fun r => [r.type.name, r.source, r.target, Decimal.fixed 1 r.weight] }

/-- Extracts the relationships of a parsed file, and stores them if that is asked for. -/
def extract (file : String) (language : Option String) (store asJson : Bool) : Command Unit := do
  let data ← readJson file
  let parsed ← orBreak .invalid (ParseResult.schema.validate (.obj data.members))
  let language := firstFilled [language.getD "", parsed.language] ""
  let some table := (Registry.known.get? language).or (Registry.known.forFile? parsed.filePath)
    | let missing := firstFilled [language, parsed.filePath] "unknown language"
      refuse s!"No extractor for {missing}"
  let relationships := Structure.relationships table parsed
  if asJson then
    modify fun session =>
      { session with value := some (.arr (relationships.map (·.toJson))) }
  else
    print (relationshipTable (firstFilled [parsed.filePath] (Path.name file)) relationships)
  if store then
    let filePath := if parsed.filePath == "" then none else some parsed.filePath
    let outcome ← onGraph (← config) (Structure.write (← get).now relationships filePath) >>=
      orBreak .store
    say (coloured "green" s!"✅ Stored {outcome.data.getD 0} new relationships")
    warn outcome.warnings

/-- Puts the entities to be linked into the similarity index. Gives a warning if that failed. -/
def syncIndex (config : ProjectConfig) : Command (List String) := do
  let entities ← onGraph config (GraphTask.entitiesOfKinds config.linking.entityTypes) >>=
    orBreak .store
  let outcome ← liftM (.ask (.index entities) .done :
    Program Outside Outside.Reply (Except StoreFailure (Outcome Nat)))
  let outcome ← orBreak .store outcome
  if outcome.isSuccess then return []
  else
    let reason := outcome.error.getD "None"
    return [s!"Similarity index sync failed: {reason}"]

/-- Links the entities of the graph to what is similar to them. -/
def discover (threshold : Option Float) (perEntity : Option Int) (all index : Bool) :
    Command Unit := do
  let config ← config
  let linking := config.linking
  let threshold := threshold.getD linking.minSimilarity
  let work : Command DiscoveryResult := do
    let warnings ← if index then syncIndex config else pure []
    let result ← onGraph config (config.linker.discover (.float threshold)
      ((perEntity.filter (· != 0)).getD linking.maxLinksPerEntity) linking.entityTypes none !all) >>=
      orBreak .store
    return { result with warnings := warnings ++ result.warnings }
  let result ← tryCatch work fun
    | .broken fault => refuse s!"Discovery failed: {fault.message}"
    | ending => throw ending
  say (coloured "green" s!"🔗 Created {result.created} links" ++ " " ++
    coloured "dim" s!"({result.processed} processed, {result.skipped} skipped)")
  warn result.warnings

/-- Deletes weak links that were found by similarity. -/
def prune (least : Option Float) : Command Unit := do
  let config ← config
  let least := least.getD config.linking.pruneBelow
  let pruned ← onGraph config (config.linker.pruneWeakLinks (some (.float least))) >>= orBreak .store
  say (coloured "green" (s!"🧹 Pruned {pruned} links below " ++ Decimal.text least))

/-- Links the listed entities to what is similar to them. -/
def batch (ids : List String) (threshold : Option Float) (index : Bool) : Command Unit := do
  let config ← config
  let linking := config.linking
  let threshold := threshold.getD linking.minSimilarity
  let warnings ← if index then syncIndex config else pure []
  let result ← onGraph config (config.linker.batchLink ids (.float threshold)
    linking.maxLinksPerEntity) >>= orBreak .store
  say (coloured "green" s!"🔗 Created {result.created} links for {result.processed} entities")
  warn (warnings ++ result.warnings)

/-- Does what a command is for. -/
def perform : Invocation → Command Unit
  | .init force serverUrl qdrantUrl => init force serverUrl qdrantUrl
  | .installHooks force => installHooks force
  | .uninstallHooks => uninstallHooks
  | .hook hookType arguments => hook hookType arguments
  | .impact base target asJson save => impact base target asJson save
  | .history hookType limit => history hookType limit
  | .extract file language store asJson => extract file language store asJson
  | .discover threshold perEntity all index => discover threshold perEntity all index
  | .prune least => prune least
  | .batch ids threshold index => batch ids threshold index

/-- Understands and does a command. The log is opened before the arguments of the command are read. -/
def ofArguments (arguments : List String) : Command Unit := do
  match Request.parse arguments with
  | .error fault => throw (.usage fault)
  | .ok .help => return ()
  | .ok .version => modify fun session => { session with text := "repo-graph, version 1.0.0\n" }
  | .ok (.command name arguments) =>
    openLog
    match Invocation.parse name arguments with
    | .error fault => throw (.usage fault)
    | .ok none => return ()
    | .ok (some invocation) => perform invocation

end Command

/-- How a command ended, and what it left behind. -/
structure Done where
  exitCode : Nat
  fault : Option Fault := none
  session : Session

/-- Runs a command in a workplace. -/
def run (workplace : Workplace) (arguments : List String) :
    Program Outside Outside.Reply Done := do
  let (result, session) ← (Command.ofArguments arguments).run.run { workplace with }
  match result with
  | .ok () => return { exitCode := 0, session }
  | .error ending =>
    let fault := match ending with
      | .broken fault => some fault
      | _ => none
    return { exitCode := ending.exitCode, fault, session }

end CodeGraph.CommandLine
