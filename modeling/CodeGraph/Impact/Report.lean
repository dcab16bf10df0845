import CodeGraph.Schema.Readers

namespace CodeGraph

/-- How risky a change is. -/
inductive RiskLevel where
  | low
  | medium
  | high
deriving Repr, DecidableEq, Inhabited

namespace RiskLevel

def name : RiskLevel → String
  | .low => "low"
  | .medium => "medium"
  | .high => "high"

def ofName? (s : String) : Option RiskLevel :=
  [low, medium, high].find? (·.name == s)

end RiskLevel

/-- How an affected entity was touched. -/
inductive ChangeType where
  | modified
  | deleted
  | signatureChanged
deriving Repr, DecidableEq, Inhabited

namespace ChangeType

def name : ChangeType → String
  | .modified => "modified"
  | .deleted => "deleted"
  | .signatureChanged => "signature-changed"

def ofName? (s : String) : Option ChangeType :=
  [modified, deleted, signatureChanged].find? (·.name == s)

end ChangeType

/-- Files changed between two commits. -/
structure ChangedFiles where
  added : List String := []
  modified : List String := []
  deleted : List String := []
deriving Repr, DecidableEq

namespace ChangedFiles

/-- The parts of what the three fields of changed files in use hold, as `all` gives them. -/
def shownFiles (held : Held ChangedFiles) : Except ValueFault (List Json) := do
  let added ← (held.value "added" fun files => Json.strings files.added).parts
  let modified ← (held.value "modified" fun files => Json.strings files.modified).parts
  let deleted ← (held.value "deleted" fun files => Json.strings files.deleted).parts
  return added ++ modified ++ deleted

def schema : Schema ChangedFiles where
  title := "ChangedFiles"
  initial := {}
  derived := [
    ⟨"total", fun held => (shownFiles held).map fun files => files.length⟩,
    ⟨"all_files", fun held => (shownFiles held).map .arr⟩,
    ⟨"is_empty", fun held => (shownFiles held).map fun files => files.isEmpty⟩]
  fields := [
    .optional "added" (Reader.list Reader.text) (·.added) Json.strings
      fun v c => { c with added := v },
    .optional "modified" (Reader.list Reader.text) (·.modified) Json.strings
      fun v c => { c with modified := v },
    .optional "deleted" (Reader.list Reader.text) (·.deleted) Json.strings
      fun v c => { c with deleted := v }]

/-- The added, then the modified, then the deleted files. -/
def all (files : ChangedFiles) : List String :=
  files.added ++ files.modified ++ files.deleted

def total (files : ChangedFiles) : Nat :=
  files.added.length + files.modified.length + files.deleted.length

def isEmpty (files : ChangedFiles) : Bool :=
  files.total == 0

def toJson (files : ChangedFiles) : Json :=
  schema.toJson files

end ChangedFiles

/-- An entity defined in a modified or deleted file. -/
structure AffectedEntity where
  id : String
  name : String
  type : String
  filePath : String
  change : ChangeType := .modified
  usages : Int := 0
deriving Repr

def AffectedEntity.schema : Schema AffectedEntity where
  title := "AffectedEntity"
  assignment := .never
  initial := { id := "", name := "", type := "", filePath := "" }
  fields := [
    .required "entity_id" Reader.text (·.id) .str fun v e => { e with id := v },
    .required "name" Reader.text (·.name) .str fun v e => { e with name := v },
    .required "type" Reader.text (·.type) .str fun v e => { e with type := v },
    .required "file_path" Reader.text (·.filePath) .str fun v e => { e with filePath := v },
    .optional "change_type" (Reader.named ChangeType.ofName?) (·.change) (.str ·.name)
      fun v e => { e with change := v },
    .optional "usage_count" Reader.int (·.usages) .int fun v e => { e with usages := v }]

/-- A recorded decision whose text mentions a changed file. -/
structure AffectedDecision where
  id : String
  summary : String
  relatedFiles : List String := []
  mightBeInvalidated : Bool := false
deriving Repr

def AffectedDecision.schema : Schema AffectedDecision where
  title := "AffectedDecision"
  assignment := .never
  initial := { id := "", summary := "" }
  fields := [
    .required "decision_id" Reader.text (·.id) .str fun v d => { d with id := v },
    .required "summary" Reader.text (·.summary) .str fun v d => { d with summary := v },
    .optional "related_files" (Reader.list Reader.text) (·.relatedFiles) Json.strings
      fun v d => { d with relatedFiles := v },
    .optional "might_be_invalidated" Reader.bool (·.mightBeInvalidated) .bool
      fun v d => { d with mightBeInvalidated := v }]

/-- A text that helps in reviewing a change. -/
structure RelatedContext where
  title : String
  summary : String := ""
  relevance : Float := 0.0
  filePaths : List String := []
deriving Repr

def RelatedContext.schema : Schema RelatedContext where
  title := "RelatedContext"
  assignment := .never
  initial := { title := "" }
  fields := [
    .required "title" Reader.text (·.title) .str fun v c => { c with title := v },
    .optional "summary" Reader.text (·.summary) .str fun v c => { c with summary := v },
    .optional "relevance_score" Reader.float (·.relevance) .float
      fun v c => { c with relevance := v },
    .optional "file_paths" (Reader.list Reader.text) (·.filePaths) Json.strings
      fun v c => { c with filePaths := v }]

/-- What a change touches. -/
structure ImpactReport where
  generatedAt : DateTime
  baseBranch : String
  targetBranch : String
  commitRange : Option String := none
  files : ChangedFiles := {}
  entities : List AffectedEntity := []
  decisions : List AffectedDecision := []
  contexts : List RelatedContext := []
  risk : RiskLevel := .low
  reasons : List String := []
  suggestions : List String := []
  /-- Lookups that failed without spoiling the report. -/
  warnings : List String := []
deriving Repr

namespace ImpactReport

/-- The fields of a report. The changed files are given in three of them. -/
def schema (now : DateTime) : Schema ImpactReport where
  title := "ImpactReport"
  assignment := .never
  initial := { generatedAt := now, baseBranch := "", targetBranch := "" }
  derived := [.of "total_files_changed" fun report => report.files.total,
    .of "changed_files" fun report => report.files.toJson]
  fields :=
    let texts := Reader.list Reader.text
    let records {α : Type} (schema : Schema α) (items : List α) := Json.arr (items.map schema.toJson)
    [.optional "generated_at" Reader.datetime (·.generatedAt) (.str ·.text)
        fun v r => { r with generatedAt := v },
      .required "base_branch" Reader.text (·.baseBranch) .str fun v r => { r with baseBranch := v },
      .required "target_branch" Reader.text (·.targetBranch) .str
        fun v r => { r with targetBranch := v },
      .optional "commit_range" (Reader.nullable Reader.text) (·.commitRange) Json.ofText?
        fun v r => { r with commitRange := v },
      .optional "files_added" texts (·.files.added) Json.strings
        fun v r => { r with files := { r.files with added := v } },
      .optional "files_modified" texts (·.files.modified) Json.strings
        fun v r => { r with files := { r.files with modified := v } },
      .optional "files_deleted" texts (·.files.deleted) Json.strings
        fun v r => { r with files := { r.files with deleted := v } },
      .optional "affected_entities" (Reader.list AffectedEntity.schema.read) (·.entities)
        (records AffectedEntity.schema) fun v r => { r with entities := v },
      .optional "affected_decisions" (Reader.list AffectedDecision.schema.read) (·.decisions)
        (records AffectedDecision.schema) fun v r => { r with decisions := v },
      .optional "related_contexts" (Reader.list RelatedContext.schema.read) (·.contexts)
        (records RelatedContext.schema) fun v r => { r with contexts := v },
      .optional "risk_level" (Reader.named RiskLevel.ofName?) (·.risk) (.str ·.name)
        fun v r => { r with risk := v },
      .optional "reasons" texts (·.reasons) Json.strings fun v r => { r with reasons := v },
      .optional "suggestions" texts (·.suggestions) Json.strings
        fun v r => { r with suggestions := v },
      .optional "warnings" texts (·.warnings) Json.strings fun v r => { r with warnings := v }]

def toJson (report : ImpactReport) : Json :=
  (schema report.generatedAt).toJson report

end ImpactReport

end CodeGraph
