import CodeGraph.Schema.Readers

namespace CodeGraph

/-- How much hooks print. -/
inductive Verbosity where
  | silent
  | normal
  | verbose
deriving Repr, DecidableEq, Inhabited

namespace Verbosity

def name : Verbosity → String
  | .silent => "silent"
  | .normal => "normal"
  | .verbose => "verbose"

def ofName? (s : String) : Option Verbosity :=
  [silent, normal, verbose].find? (·.name == s)

end Verbosity

/-- Addresses start with a scheme, and slashes at their end are dropped. -/
def Reader.address (read : Reader String) (reason : String) : Reader String :=
  Reader.refine read fun s =>
    let chars := s.toList
    if "http://".toList.isPrefixOf chars || "https://".toList.isPrefixOf chars then
      .ok (String.ofList (Text.dropRightWhile (· == '/') chars))
    else .issue (.refused reason)

/-- How git hooks behave in a project. -/
structure HookConfig where
  enablePreCommit : Bool := true
  enablePostMerge : Bool := true
  enablePrePush : Bool := false
  enablePostCheckout : Bool := false
  indexOnCommit : Bool := true
  syncOnMerge : Bool := true
  validateOnPush : Bool := false
  generateImpactReport : Bool := true
  maxFilesToIndex : Int := 100
  /-- Milliseconds that a call of a tool may take. -/
  timeout : Int := 10000
  asyncMode : Bool := false
  serverUrl : String := "http://localhost:3000"
  projectId : String := ""
  verbosity : Verbosity := .normal
  notifyOnError : Bool := true
deriving Repr, DecidableEq

namespace HookConfig

/-- The time that a call of a tool may take, in seconds. -/
def timeoutSeconds (config : HookConfig) : Except NumberFault Float :=
  (Number.int config.timeout).div (.float 1000.0)

def schema : Schema HookConfig where
  title := "HookConfig"
  assignment := .checked
  initial := {}
  derived := [⟨"timeout_seconds", fun held =>
    (held.record.timeoutSeconds.map .float).mapError .number⟩]
  fields :=
    let text := Reader.trimmedOrNumber
    [.optional "enable_pre_commit" Reader.bool (·.enablePreCommit) .bool
        fun v c => { c with enablePreCommit := v },
      .optional "enable_post_merge" Reader.bool (·.enablePostMerge) .bool
        fun v c => { c with enablePostMerge := v },
      .optional "enable_pre_push" Reader.bool (·.enablePrePush) .bool
        fun v c => { c with enablePrePush := v },
      .optional "enable_post_checkout" Reader.bool (·.enablePostCheckout) .bool
        fun v c => { c with enablePostCheckout := v },
      .optional "index_on_commit" Reader.bool (·.indexOnCommit) .bool
        fun v c => { c with indexOnCommit := v },
      .optional "sync_on_merge" Reader.bool (·.syncOnMerge) .bool
        fun v c => { c with syncOnMerge := v },
      .optional "validate_on_push" Reader.bool (·.validateOnPush) .bool
        fun v c => { c with validateOnPush := v },
      .optional "generate_impact_report" Reader.bool (·.generateImpactReport) .bool
        fun v c => { c with generateImpactReport := v },
      .optional "max_files_to_index" (Reader.refine Reader.int (Reader.atLeast 1))
        (·.maxFilesToIndex) .int fun v c => { c with maxFilesToIndex := v },
      .optional "timeout_ms" (Reader.refine Reader.int (Reader.atLeast 100)) (·.timeout) .int
        fun v c => { c with timeout := v },
      .optional "async_mode" Reader.bool (·.asyncMode) .bool fun v c => { c with asyncMode := v },
      .optional "server_url"
        (Reader.address text "Server URL must start with http:// or https://") (·.serverUrl) .str
        fun v c => { c with serverUrl := v },
      .optional "project_id" text (·.projectId) .str fun v c => { c with projectId := v },
      .optional "verbosity" (Reader.named Verbosity.ofName?) (·.verbosity) (.str ·.name)
        fun v c => { c with verbosity := v },
      .optional "notify_on_error" Reader.bool (·.notifyOnError) .bool
        fun v c => { c with notifyOnError := v }]

def toJson (config : HookConfig) : Json :=
  schema.toJson config

/-- Whether the hook with a name is to be installed. Dashes and underscores are alike. -/
def isEnabled (config : HookConfig) (hook : String) : Bool :=
  match Text.replaceChar '-' '_' hook with
  | "pre_commit" => config.enablePreCommit
  | "post_merge" => config.enablePostMerge
  | "pre_push" => config.enablePrePush
  | "post_checkout" => config.enablePostCheckout
  | _ => false

end HookConfig

end CodeGraph
