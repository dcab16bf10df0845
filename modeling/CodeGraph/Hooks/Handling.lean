import CodeGraph.Config.HookConfig
import CodeGraph.Console.Printed
import CodeGraph.Hooks.Store
import CodeGraph.Impact.Analysis

namespace CodeGraph

/-- Where hooks are handled: the records, and what has been printed. -/
structure HookDesk where
  store : HookStore := {}
  printed : List Printed := []

/-- Work at the desk that may look things up. -/
abbrev HookWork := StateT HookDesk Lookup

/-- What hooks are handled by: the configuration, whether there is a server of tools, and the hooks
that there is a handler for. -/
structure HookHandler where
  config : HookConfig := {}
  hasTools : Bool := true
  handled : List HookType := HookType.all

/-- What a handler reports. Counts are as a tool gave them. -/
structure HookReport where
  success : Bool := true
  message : String
  filesIndexed : Json := .int 0
  entitiesUpdated : Json := .int 0
  warnings : List String := []
  errors : List String := []

/-- The result for a report whose counts are whole numbers. -/
def HookReport.result (report : HookReport) (hookType : HookType) : Except Invalid HookResult :=
  HookResult.schema.validate (.obj [("success", .bool report.success),
    ("hook_type", .str hookType.name), ("files_indexed", report.filesIndexed),
    ("entities_updated", report.entitiesUpdated), ("message", .str report.message),
    ("warnings", Json.strings report.warnings), ("errors", Json.strings report.errors)])

/-- The result for a report, or for the reason why there is none. -/
def HookResult.ofReport (hookType : HookType) : Except String HookReport → HookResult
  | .error reason => .failure hookType reason
  | .ok report =>
    match report.result hookType with
    | .ok result => result
    | .error invalid => .failure hookType invalid.message

/-- The name of a hook as a key, where it has no handler. -/
def HookType.key (hookType : HookType) : String :=
  let constant := Text.replaceChar '-' '_' (Text.upper hookType.name)
  s!"<HookType.{constant}: {Json.quoted hookType.name}>"

/-- The colour of a risk. -/
def RiskLevel.colour : RiskLevel → String
  | .low => "green"
  | .medium => "yellow"
  | .high => "red"

/-- The risk in its colour. -/
def RiskLevel.label (risk : RiskLevel) : String :=
  coloured risk.colour (Text.upper risk.name)

/-- How many files were added, modified and deleted. -/
def ImpactReport.fileCounts (report : ImpactReport) : String :=
  s!"+{report.files.added.length} ~{report.files.modified.length} -{report.files.deleted.length}"

/-- How many entities and decisions are affected. -/
def ImpactReport.affectedCounts (report : ImpactReport) : String :=
  s!"{report.entities.length} entities, {report.decisions.length} decisions"

/-- The summary of a report in a panel, and what it recommends. -/
def ImpactReport.summary (report : ImpactReport) : List Printed :=
  let rows := [["Risk Level", report.risk.label], ["Files", report.fileCounts],
    ["Affected", report.affectedCounts]] ++ report.reasons.map fun reason => ["Reason", reason]
  .tablePanel "Impact Analysis" { columns := ["Field", "Value"], rows } ::
    if report.suggestions.isEmpty then []
    else .line (coloured "blue" "Recommendations:") ::
      report.suggestions.map fun suggestion => .line ("  • " ++ suggestion)

namespace HookHandler

/-- More changes than this in a checkout call for a warning. -/
def manyChanges : Nat := 10

/-- The project of an event: the configured one, or the one called like the repository. -/
def project (handler : HookHandler) (event : HookEvent) : String :=
  if handler.config.projectId != "" then handler.config.projectId else Path.name event.repository

/-- Prints the summary of a report, unless nothing is to be printed. -/
def printSummary (handler : HookHandler) (report : ImpactReport) : HookWork Unit :=
  if handler.config.verbosity == .silent then return ()
  else modify fun desk => { desk with printed := desk.printed ++ report.summary }

/-- What the index made of files. -/
structure Indexed where
  files : Json
  entities : Json

/-- Calls a tool, if the time that the call may take is a number of seconds. -/
def callTool (handler : HookHandler) (name : String) (parameters : Json) :
    Lookup (Except String Json) :=
  match handler.config.timeoutSeconds with
  | .error fault => return .error fault.message
  | .ok _ => Lookup.tool name parameters

/-- Hands files to the index. Fails with the words of the tool, or if its answer has no members. -/
def index (handler : HookHandler) (event : HookEvent) (files : List String) :
    Lookup (Except String (Except Impact.Misshape Indexed)) := do
  match ← handler.callTool "index_files"
      (.obj [("projectId", .str (handler.project event)), ("filePaths", Json.strings files)]) with
  | .error reason => return .error reason
  | .ok answer => return .ok do
    let count := Impact.orElse (← Impact.member answer "filesIndexed") (.int files.length)
    let entities := Impact.orElse (← Impact.member answer "entitiesExtracted") (.int 0)
    return ⟨count, entities⟩

/-- Whether so many files are not indexed at once. -/
def tooMany (handler : HookHandler) (files : List String) : Bool :=
  handler.config.maxFilesToIndex < files.length

/-- Files that are known, or that git is asked for. -/
def knownOr (files : Option (List String)) (ask : Git.Command (List String)) :
    Git.Command (List String) :=
  match files with
  | some files => return files
  | none => ask

/-- Indexes staged files. -/
def indexStaged (handler : HookHandler) (event : HookEvent) (staged : List String) :
    Lookup (Except Impact.Misshape HookReport) := do
  let count := staged.length
  if staged.isEmpty then return .ok { message := "No files to index" }
  else if handler.tooMany staged then
    return .ok {
      message := s!"Too many files ({count}), skipping auto-index"
      warnings := ["Consider running \x60repo-graph\x60 indexing manually after commit"] }
  else if !handler.hasTools then
    return .ok {
      filesIndexed := .int count
      message := s!"Would index {count} files (client not configured)" }
  else
    match ← handler.index event staged with
    | .error reason =>
      return .ok { message := "Indexing skipped", warnings := [s!"Index failed: {reason}"] }
    | .ok answer => return do
      let indexed ← answer
      let words := indexed.files.text
      return {
        filesIndexed := indexed.files, entitiesUpdated := indexed.entities
        message := s!"Indexed {words} files" }

/-- Before a commit the staged files are indexed. -/
def preCommit (handler : HookHandler) (event : HookEvent) :
    Lookup (Except Impact.Fault HookReport) := do
  if !handler.config.indexOnCommit then return .ok { message := "Indexing on commit disabled" }
  else
    match ← (knownOr event.stagedFiles Git.stagedFiles).run with
    | .error refusal => return .error (.refused refusal)
    | .ok staged => return (← handler.indexStaged event staged).mapError .misshapen

/-- What a merge has come to so far. -/
structure Merge where
  filesIndexed : Json := .int 0
  entitiesUpdated : Json := .int 0
  messages : List String := []
  warnings : List String := []

/-- Records that the commit of an event has been indexed. -/
def markMerged (handler : HookHandler) (event : HookEvent) (merge : Merge) : HookWork Merge :=
  if event.commit == "" then return merge
  else modifyGet fun desk =>
    let (marked, store) := desk.store.change fun store =>
      store.markIndexed (handler.project event) event.commit merge.filesIndexed
    let merge := match marked with
      | .ok () => merge
      | .error failure => { merge with warnings := ["Index sync failed: " ++ failure.message] }
    (merge, { desk with store })

/-- Indexes merged files, and records that the commit has been indexed. -/
def indexMerged (handler : HookHandler) (event : HookEvent) (merged : List String) :
    HookWork Merge := do
  let count := merged.length
  if handler.tooMany merged then
    return { warnings := [s!"Too many merged files ({count}), skipping index sync"] }
  else if merged.isEmpty then return {}
  else if !handler.hasTools then
    return {
      filesIndexed := .int count
      messages := [s!"Would index {count} merged files (client not configured)"] }
  else
    match ← handler.index event merged with
    | .error reason => return { warnings := [s!"Index sync failed: {reason}"] }
    | .ok (.error misshape) => return { warnings := ["Index sync failed: " ++ misshape.message] }
    | .ok (.ok indexed) =>
      let words := indexed.files.text
      handler.markMerged event {
        filesIndexed := indexed.files, entitiesUpdated := indexed.entities
        messages := [s!"Indexed {words} merged files"] }

/-- Indexes the files of a merge, if that is to be done. -/
def syncMerged (handler : HookHandler) (event : HookEvent) :
    HookWork (Except Git.Refusal Merge) := do
  if !handler.config.syncOnMerge then return .ok {}
  else
    match ← (knownOr event.mergedFiles Git.mergedFiles).run with
    | .error refusal => return .error refusal
    | .ok merged => return .ok (← handler.indexMerged event merged)

/-- Analyses a merge. -/
def analyzeMerged (handler : HookHandler) (now : DateTime) (event : HookEvent) :
    ExceptT Impact.Fault Lookup ImpactReport := do
  let baseBranch ← Git.baseBranch.adapt .refused
  Impact.analyze now handler.hasTools {
    project := handler.project event, baseBranch
    targetBranch := if event.branch == "" then "HEAD" else event.branch
    previousCommit := event.previousCommit, currentCommit := some event.commit }

/-- Analyses a merge, keeps the report and prints its summary. -/
def reportMerged (handler : HookHandler) (now : DateTime) (event : HookEvent) (merge : Merge) :
    HookWork Merge := do
  if !handler.config.generateImpactReport then return merge
  match ← (handler.analyzeMerged now event).run with
  | .error fault =>
    return { merge with
      warnings := merge.warnings ++ ["Impact analysis failed: " ++ fault.message] }
  | .ok report =>
    modify fun desk =>
      { desk with store := desk.store.saveReport (handler.project event) report }
    handler.printSummary report
    return { merge with
      warnings := merge.warnings ++ report.warnings
      messages := merge.messages ++ ["Impact risk: " ++ report.risk.name] }

/-- After a merge the merged files are indexed and what they touch is reported. -/
def postMerge (handler : HookHandler) (now : DateTime) (event : HookEvent) :
    HookWork (Except Impact.Fault HookReport) := do
  match ← handler.syncMerged event with
  | .error refusal => return .error (.refused refusal)
  | .ok merge =>
    let merge ← handler.reportMerged now event merge
    let message := if merge.messages.isEmpty then "Merge processed"
      else "; ".intercalate merge.messages
    return .ok {
      message, filesIndexed := merge.filesIndexed, entitiesUpdated := merge.entitiesUpdated
      warnings := merge.warnings }

/-- A push is blocked when the index is out of date, if that is to be checked and can be found out. -/
def prePush (handler : HookHandler) (event : HookEvent) :
    Lookup (Except Impact.Fault HookReport) := do
  if !handler.config.validateOnPush then return .ok { message := "Push validation disabled" }
  else if !handler.hasTools then return .ok { message := "Index validation passed" }
  else
    match ← handler.callTool "index_status" (.obj [("projectId", .str (handler.project event))]) with
    | .error _ =>
      return .ok {
        message := "Push allowed without validation"
        warnings := ["Could not validate index status"] }
    | .ok answer => return Except.mapError .misshapen do
      if (← Impact.member answer "isUpToDate").isTruthy then
        return { message := "Index validation passed" }
      else
        let count := Impact.orElse (← Impact.member answer "unindexedCount") (.str "unknown")
        return {
          success := false
          message := "Push blocked: index is out of date"
          errors := ["Index is out of date. Re-index the project before pushing.",
            "Unindexed files: " ++ count.text] }

/-- After a checkout of another commit there is a warning if much has changed. -/
def postCheckout (event : HookEvent) : Git.Command HookReport := do
  if !event.isBranchSwitch then return { message := "File checkout, skipping" }
  else
    let changed ← Git.changedFilesBetween (event.previousCommit.getD "") event.commit
    let count := changed.total
    return {
      message := "Branch switched"
      warnings := if manyChanges < count
        then [s!"Branch has {count} changes, consider re-indexing"] else [] }

/-- What the handler of a hook reports. -/
def dispatch (handler : HookHandler) (now : DateTime) (event : HookEvent) :
    HookWork (Except Impact.Fault HookReport) :=
  match event.type with
  | .preCommit => liftM (handler.preCommit event)
  | .postMerge => handler.postMerge now event
  | .prePush => liftM (handler.prePush event)
  | .postCheckout => liftM ((postCheckout event).adapt Impact.Fault.refused).run

/-- The report on an event, or why there is none. -/
def report (handler : HookHandler) (now : DateTime) (event : HookEvent) :
    HookWork (Except String HookReport) := do
  if !handler.handled.contains event.type then return .error event.type.key
  else return (← handler.dispatch now event).mapError (·.message)

/-- The desk with the record of a run, if that can be kept. -/
def recorded (handler : HookHandler) (event : HookEvent) (result : HookResult) (desk : HookDesk) :
    HookDesk :=
  let execution := HookExecution.ofResult desk.store.nextId (handler.project event) event result
  { desk with store := (desk.store.change (·.record execution)).2 }

/-- Handles an event, which takes so many milliseconds. -/
def handle (handler : HookHandler) (now : DateTime) (event : HookEvent) (duration : Float := 0.0) :
    HookWork HookResult := do
  let result := { HookResult.ofReport event.type (← handler.report now event) with duration }
  modify (handler.recorded event result)
  return result

/-- The handler with changes to its configuration. -/
def updateConfig (handler : HookHandler) (changes : Members) : Except Invalid HookHandler := do
  let members := changes.foldl (fun members (name, value) => Members.set members name value)
    (HookConfig.schema.fields.map fun field => (field.name, field.view handler.config))
  return { handler with config := ← HookConfig.schema.validate (.obj members) }

end HookHandler

end CodeGraph
