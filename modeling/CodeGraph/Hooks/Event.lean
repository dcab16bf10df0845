import CodeGraph.Json.Text
import CodeGraph.Schema.Readers

namespace CodeGraph

/-- Git hooks that are handled. -/
inductive HookType where
  | preCommit
  | postMerge
  | prePush
  | postCheckout
deriving Repr, DecidableEq, Inhabited

namespace HookType

def name : HookType → String
  | .preCommit => "pre-commit"
  | .postMerge => "post-merge"
  | .prePush => "pre-push"
  | .postCheckout => "post-checkout"

def all : List HookType := [.preCommit, .postMerge, .prePush, .postCheckout]

/-- The hook with a name. -/
def ofName? (s : String) : Option HookType :=
  all.find? (·.name == s)

end HookType

/-- One run of a git hook. -/
structure HookEvent where
  type : HookType
  timestamp : DateTime
  repository : String
  branch : String := ""
  commit : String := ""
  previousCommit : Option String := none
  /-- Staged files, if they are known without asking git. -/
  stagedFiles : Option (List String) := none
  /-- Merged files, if they are known without asking git. -/
  mergedFiles : Option (List String) := none

namespace HookEvent

/-- Whether a checkout moved to another commit. -/
def isBranchSwitch (event : HookEvent) : Bool :=
  match event.previousCommit with
  | some previous => previous != "" && previous != event.commit
  | none => false

/-- Whether an event in use shows a move to another commit, as `isBranchSwitch` gives it. -/
def showsBranchSwitch (held : Held HookEvent) : Bool :=
  let previous := held.value "previous_commit" fun event => Json.ofText? event.previousCommit
  previous.isTruthy && !previous.isSame (held.value "current_commit" fun event => event.commit)

def schema (now : DateTime) : Schema HookEvent where
  title := "HookEvent"
  initial := { type := .preCommit, timestamp := now, repository := "" }
  derived := [⟨"is_branch_switch", fun held => .ok (showsBranchSwitch held)⟩]
  fields :=
    let repository := Reader.refine Reader.trimmed fun s =>
      if s == "" then .issue (.refused "Repository path cannot be empty") else .ok s
    let files? := Reader.nullable (Reader.list Reader.trimmed)
    [.required "type" (Reader.named HookType.ofName?) (·.type) (.str ·.name)
        fun v e => { e with type := v },
      .optional "timestamp" Reader.datetime (·.timestamp) (.str ·.text)
        fun v e => { e with timestamp := v },
      .required "repository" repository (·.repository) .str fun v e => { e with repository := v },
      .optional "current_branch" Reader.trimmed (·.branch) .str fun v e => { e with branch := v },
      .optional "current_commit" Reader.trimmed (·.commit) .str fun v e => { e with commit := v },
      .optional "previous_commit" (Reader.nullable Reader.trimmed) (·.previousCommit) Json.ofText?
        fun v e => { e with previousCommit := v },
      .optional "staged_files" files? (·.stagedFiles) (Json.ofOption Json.strings)
        fun v e => { e with stagedFiles := v },
      .optional "merged_files" files? (·.mergedFiles) (Json.ofOption Json.strings)
        fun v e => { e with mergedFiles := v }]

end HookEvent

/-- What came of a run. -/
structure HookResult where
  success : Bool
  hookType : HookType
  duration : Float := 0.0
  filesIndexed : Int := 0
  entitiesUpdated : Int := 0
  message : String := ""
  warnings : List String := []
  errors : List String := []

namespace HookResult

def schema : Schema HookResult where
  title := "HookResult"
  initial := { success := false, hookType := .preCommit }
  derived := [⟨"has_warnings", fun held => do
    let warnings ← (held.value "warnings" fun result => Json.strings result.warnings).parts
    return !warnings.isEmpty⟩]
  fields := [
    .required "success" Reader.bool (·.success) .bool fun v r => { r with success := v },
    .required "hook_type" (Reader.named HookType.ofName?) (·.hookType) (.str ·.name)
      fun v r => { r with hookType := v },
    .optional "duration_ms" Reader.float (·.duration) .float fun v r => { r with duration := v },
    .optional "files_indexed" Reader.int (·.filesIndexed) .int fun v r => { r with filesIndexed := v },
    .optional "entities_updated" Reader.int (·.entitiesUpdated) .int
      fun v r => { r with entitiesUpdated := v },
    .optional "message" Reader.text (·.message) .str fun v r => { r with message := v },
    .optional "warnings" (Reader.list Reader.text) (·.warnings) Json.strings
      fun v r => { r with warnings := v },
    .optional "errors" (Reader.list Reader.text) (·.errors) Json.strings
      fun v r => { r with errors := v }]

/-- The result of a run that broke off. -/
def failure (hookType : HookType) (error : String) (duration : Float := 0.0) : HookResult :=
  { success := false, hookType, duration, message := s!"Hook failed: {error}", errors := [error] }

/-- The way to make the result of a run that broke off. -/
def failureMaker : Maker where
  takes := ["hook_type", "error", "duration_ms"]
  needs := ["hook_type", "error"]
  value given :=
    let error := (Members.get? given "error").getD .null
    .ok (.obj (given ++ [("success", .bool false), ("message", .str ("Hook failed: " ++ error.text)),
      ("errors", .arr [error])]))

def toJson (result : HookResult) : Json :=
  schema.toJson result

end HookResult

/-- The record kept of a run. -/
structure HookExecution where
  id : String
  projectId : String
  hookType : HookType
  timestamp : DateTime
  repository : String
  branch : String := ""
  commit : String := ""
  duration : Float := 0.0
  success : Bool
  filesIndexed : Int := 0
  entitiesUpdated : Int := 0
  message : String := ""
  warnings : List String := []
  errors : List String := []

namespace HookExecution

/-- The fields of a record, which gets a new id unless one is given. -/
def schema (now : DateTime) (id : String) : Schema HookExecution where
  title := "HookExecution"
  assignment := .never
  initial := {
    id, projectId := "", hookType := .preCommit, timestamp := now, repository := "", success := false }
  fields := [
    .optional "id" Reader.text (·.id) .str fun v e => { e with id := v },
    .required "project_id" Reader.text (·.projectId) .str fun v e => { e with projectId := v },
    .required "hook_type" (Reader.named HookType.ofName?) (·.hookType) (.str ·.name)
      fun v e => { e with hookType := v },
    .optional "timestamp" Reader.datetime (·.timestamp) (.str ·.text)
      fun v e => { e with timestamp := v },
    .required "repository" Reader.text (·.repository) .str fun v e => { e with repository := v },
    .optional "branch" Reader.text (·.branch) .str fun v e => { e with branch := v },
    .optional "commit_hash" Reader.text (·.commit) .str fun v e => { e with commit := v },
    .optional "duration_ms" Reader.float (·.duration) .float fun v e => { e with duration := v },
    .required "success" Reader.bool (·.success) .bool fun v e => { e with success := v },
    .optional "files_indexed" Reader.int (·.filesIndexed) .int fun v e => { e with filesIndexed := v },
    .optional "entities_updated" Reader.int (·.entitiesUpdated) .int
      fun v e => { e with entitiesUpdated := v },
    .optional "message" Reader.text (·.message) .str fun v e => { e with message := v },
    .optional "warnings" (Reader.list Reader.text) (·.warnings) Json.strings
      fun v e => { e with warnings := v },
    .optional "errors" (Reader.list Reader.text) (·.errors) Json.strings
      fun v e => { e with errors := v }]

/-- The record of an event and its result. -/
def ofResult (id projectId : String) (event : HookEvent) (result : HookResult) : HookExecution :=
  { id, projectId, hookType := event.type, timestamp := event.timestamp
    repository := event.repository, branch := event.branch, commit := event.commit
    duration := result.duration, success := result.success, filesIndexed := result.filesIndexed
    entitiesUpdated := result.entitiesUpdated, message := result.message
    warnings := result.warnings, errors := result.errors }

/-- The way to make the record of an event and its result. It is not for values: an event and a result
have members that no value has. -/
def resultMaker : Maker where
  takes := ["project_id", "event", "result"]
  needs := ["project_id", "event", "result"]
  value _ := .error .noMember

def toJson (execution : HookExecution) : Json :=
  (schema execution.timestamp execution.id).toJson execution

end HookExecution

/-- What came of installing or removing hooks. -/
structure InstallResult where
  installed : List HookType := []
  removed : List HookType := []
  /-- Hooks left alone, with the reason. -/
  skipped : List String := []
  directory : String := ""

namespace InstallResult

def schema : Schema InstallResult where
  title := "InstallResult"
  initial := {}
  derived := [⟨"changed", fun held =>
    let names (hooks : List HookType) := Json.strings (hooks.map (·.name))
    .ok ((held.value "installed" fun result => names result.installed).isTruthy ||
      (held.value "removed" fun result => names result.removed).isTruthy)⟩]
  fields :=
    let hooks := Reader.list (Reader.named HookType.ofName?)
    let names (hooks : List HookType) := Json.strings (hooks.map (·.name))
    [.optional "installed" hooks (·.installed) names fun v r => { r with installed := v },
      .optional "removed" hooks (·.removed) names fun v r => { r with removed := v },
      .optional "skipped" (Reader.list Reader.text) (·.skipped) Json.strings
        fun v r => { r with skipped := v },
      .optional "hooks_dir" Reader.text (·.directory) .str fun v r => { r with directory := v }]

/-- Whether anything was installed or removed. -/
def changed (result : InstallResult) : Bool :=
  !result.installed.isEmpty || !result.removed.isEmpty

end InstallResult

end CodeGraph
