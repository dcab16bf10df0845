import CodeGraph.Graph.Store
import CodeGraph.Hooks.Event
import CodeGraph.Impact.Report
import CodeGraph.Json.Map
import CodeGraph.Json.Reader
import CodeGraph.Json.Writer
import CodeGraph.Time.Reading
import CodeGraph.Transaction

namespace CodeGraph

/-- Why a record could not be kept. -/
inductive RecordFailure where
  /-- Another process holds the table. -/
  | locked
  /-- Another run has the id. -/
  | idTaken
  /-- A column without a value. -/
  | noValue (column : String)
  /-- A number has more than 64 bits. -/
  | outOfRange
  /-- A value of a type that has no place in a column. -/
  | notStorable (type : String)
  /-- A row is not one of a run. -/
  | unreadable (reason : String)
deriving Repr, DecidableEq

def RecordFailure.message : RecordFailure → String
  | .locked => "database locked"
  | .idTaken => "UNIQUE constraint failed: hook_executions.id"
  | .noValue column => s!"NOT NULL constraint failed: {column}"
  | .outOfRange => "Python int too large to convert to SQLite INTEGER"
  | .notStorable type => s!"Error binding parameter 4: type '{type}' is not supported"
  | .unreadable reason => reason

/-- A run as a row of a table. Lists are written as JSON. -/
structure ExecutionRow where
  id : String
  project : String
  hookType : String
  timestamp : String
  repository : String
  branch : String
  commit : String
  duration : Float
  success : Int
  filesIndexed : Int
  entitiesUpdated : Int
  message : String
  warnings : String
  errors : String

/-- What a column of fractions keeps of a number: a zero loses its sign. -/
def inFractionColumn (x : Float) : Float :=
  if x == 0.0 then 0.0 else x

/-- The row of a run. -/
def HookExecution.row (e : HookExecution) : ExecutionRow where
  id := e.id
  project := e.projectId
  hookType := e.hookType.name
  timestamp := e.timestamp.text
  repository := e.repository
  branch := e.branch
  commit := e.commit
  duration := inFractionColumn e.duration
  success := if e.success then 1 else 0
  filesIndexed := e.filesIndexed
  entitiesUpdated := e.entitiesUpdated
  message := e.message
  warnings := (Json.strings e.warnings).compact
  errors := (Json.strings e.errors).compact

namespace ExecutionRow

/-- The texts of a list that is written in a column. -/
def texts (column : String) : Except RecordFailure (List String) :=
  match Json.parse (if column == "" then "[]" else column) with
  | .error fault => .error (.unreadable fault.message)
  | .ok value => (Reader.list Reader.text value).mapError fun issues =>
      .unreadable (Invalid.message ⟨"HookExecution", issues⟩)

/-- The run that a row is about. -/
def execution (row : ExecutionRow) : Except RecordFailure HookExecution := do
  let some hookType := HookType.ofName? row.hookType
    | .error (.unreadable s!"{Json.quoted row.hookType} is not a valid HookType")
  let some timestamp := DateTime.full? row.timestamp.toList
    | .error (.unreadable s!"Invalid isoformat string: {Json.quoted row.timestamp}")
  let warnings ← texts row.warnings
  let errors ← texts row.errors
  return {
    id := row.id, projectId := row.project, hookType, timestamp, repository := row.repository
    branch := row.branch, commit := row.commit, duration := row.duration
    success := row.success != 0, filesIndexed := row.filesIndexed
    entitiesUpdated := row.entitiesUpdated, message := row.message, warnings, errors }

end ExecutionRow

/-- A commit whose files have been indexed. The count is a whole number if it was given as one. -/
structure IndexedCommit where
  project : String
  commit : String
  fileCount : Json

/-- The records of hooks. -/
structure HookStore where
  executions : List HookExecution := []
  reports : List (String × ImpactReport) := []
  commits : List IndexedCommit := []
  executionsLocked : Bool := false
  commitsLocked : Bool := false

/-- A whole number for a fraction that is one. -/
def Json.ofColumnFloat (x : Float) : Json :=
  if Decimal.isIntegral x && fitsWord (Decimal.truncate x) then .int (Decimal.truncate x)
  else .float x

/-- The number that a column makes of a text, if it denotes one. -/
def Json.ofColumnText? (s : String) : Option Json :=
  let blank (c : Char) : Bool := c == ' ' || ('\t' ≤ c && c ≤ '\r')
  let (minus, body) := Decimal.splitSign (Text.trimChars blank s.toList)
  if !body.isEmpty && body.all Char.isDigit then
    let n : Int := Decimal.ofDigits body
    let i := if minus then -n else n
    some (if fitsWord i then .int i else .float (Float.ofInt i))
  else (Decimal.unsignedFraction? body).map fun x => ofColumnFloat (if minus then -x else x)

/-- What a column of whole numbers keeps of a value: texts that denote numbers become numbers. -/
def Json.inColumn (column : String) : Json → Except RecordFailure Json
  | .null => .error (.noValue column)
  | .bool b => .ok (.int (if b then 1 else 0))
  | .int i => if fitsWord i then .ok (.int i) else .error .outOfRange
  | .float x => if x.isNaN then .error (.noValue column) else .ok (Json.ofColumnFloat x)
  | .str s => .ok ((Json.ofColumnText? s).getD (.str s))
  | value => .error (.notStorable value.typeName)

namespace HookStore

def empty : HookStore := {}

/-- Keeps the record of a run. -/
def record (store : HookStore) (execution : HookExecution) : Except RecordFailure HookStore :=
  if store.executionsLocked then .error .locked
  else if !(fitsWord execution.filesIndexed && fitsWord execution.entitiesUpdated) then
    .error .outOfRange
  else if execution.duration.isNaN then .error (.noValue "hook_executions.duration_ms")
  else if store.executions.any (·.id == execution.id) then .error .idTaken
  else .ok { store with executions := store.executions ++ [execution] }

/-- Items from the one with the latest written time on. Of those with the same time the last one is first. -/
def newestFirst {α : Type} (time : α → String) (items : List α) : List α :=
  items.reverse.mergeSort fun a b => decide (time b ≤ time a)

/-- The runs of the hooks of a project, the newest first. A negative limit means none. -/
def recent (store : HookStore) (project : String) (hookType : Option HookType) (limit : Int) :
    Except RecordFailure (List HookExecution) :=
  if !fitsWord limit then .error .outOfRange
  else
    let found := (store.executions.map (·.row)).filter fun row =>
      row.project == project && hookType.all (·.name == row.hookType)
    (limited (some limit) (newestFirst (·.timestamp) found)).mapM (·.execution)

/-- Keeps an impact report. -/
def saveReport (store : HookStore) (project : String) (report : ImpactReport) : HookStore :=
  { store with reports := store.reports ++ [(project, report)] }

/-- The newest impact report of a project, as it reads back from text. -/
def latestReport? (store : HookStore) (project : String) :
    Except Invalid (Option ImpactReport) :=
  let found := (store.reports.filter (·.1 == project)).map (·.2)
  match newestFirst (·.generatedAt.text) found with
  | [] => .ok none
  | report :: _ => ((ImpactReport.schema report.generatedAt).validate report.toJson.finite).map some

/-- Records that the files of a commit have been indexed, or how many of them have been now. -/
def markIndexed (store : HookStore) (project commit : String) (fileCount : Json) :
    Except RecordFailure HookStore :=
  if store.commitsLocked then .error .locked
  else do
    let fileCount ← fileCount.inColumn "indexed_commits.file_count"
    let same (c : IndexedCommit) := c.project == project && c.commit == commit
    if store.commits.any same then
      pure { store with
        commits := store.commits.map fun c => if same c then { c with fileCount } else c }
    else pure { store with commits := store.commits ++ [⟨project, commit, fileCount⟩] }

/-- Changes the records, in a transaction. -/
def change (write : HookStore → Except RecordFailure HookStore) (store : HookStore) :
    Except RecordFailure Unit × HookStore :=
  (TableWork.statement fun store => (write store).map ((), ·)).transact store

theorem change_of_ok {write : HookStore → Except RecordFailure HookStore} {store next : HookStore}
    (done : write store = .ok next) : change write store = (.ok (), next) :=
  TableWork.transact_of_ok (by rw [done]; rfl)

theorem change_of_error {write : HookStore → Except RecordFailure HookStore} {store : HookStore}
    {failure : RecordFailure} (failed : write store = .error failure) :
    change write store = (.error failure, store) :=
  TableWork.transact_of_error (by rw [failed]; rfl)

/-- The records are as they were written, or as they were before. -/
theorem change_cases (write : HookStore → Except RecordFailure HookStore) (store : HookStore) :
    write store = .ok (change write store).2 ∨ (change write store).2 = store := by
  cases run : write store with
  | ok next => exact .inl (by rw [change_of_ok run])
  | error failure => exact .inr (by rw [change_of_error run])

def isIndexed (store : HookStore) (project commit : String) : Bool :=
  store.commits.any fun c => c.project == project && c.commit == commit

/-- The id of the next record. -/
def nextId (store : HookStore) : String :=
  GraphStore.edgeId store.executions.length

/-- The indexed commits as rows, sorted by project and commit. -/
def commitRows (store : HookStore) : Json :=
  let sorted := store.commits.mergeSort fun a b =>
    decide (a.project < b.project) || (a.project == b.project && decide (a.commit ≤ b.commit))
  .arr (sorted.map fun c => .arr [.str c.project, .str c.commit, c.fileCount])

end HookStore

/-- A report as a row: what it is about, how many files and entities it names, and the reasons for the
risk as text. -/
def ImpactReport.row (project : String) (r : ImpactReport) : Json :=
  let count {α : Type} (items : List α) : Json := .int items.length
  .arr [.str project, .str r.baseBranch, .str r.targetBranch, Json.ofText? r.commitRange,
    count r.files.added, count r.files.modified, count r.files.deleted, count r.entities,
    count r.decisions, .str r.risk.name, .str (Json.strings r.reasons).compact]

end CodeGraph
