import CodeGraph.Json.Access
import CodeGraph.Schema.Readers

namespace CodeGraph

/-- How an operation ended. -/
inductive Status where
  | success
  | failed
  | partial_
deriving Repr, DecidableEq, Inhabited

namespace Status

def name : Status → String
  | .success => "success"
  | .failed => "failed"
  | .partial_ => "partial"

def ofName? (s : String) : Option Status :=
  [success, failed, partial_].find? (·.name == s)

end Status

/-- What came of an operation. -/
structure Outcome (α : Type) where
  status : Status
  data : Option α := none
  error : Option String := none
  errorDetails : Option Members := none
  recoverable : Bool := true
  warnings : List String := []
  operation : String
  timestamp : DateTime
  milliseconds : Option Float := none
  processed : Int := 0
  failed : Int := 0

namespace Outcome

variable {α : Type}

/-- Everything was done. -/
def success (data : α) (operation : String) (timestamp : DateTime) (processed : Int := 1)
    (milliseconds : Option Float := none) : Outcome α :=
  { status := .success, data := some data, operation, timestamp, processed, milliseconds }

/-- Some items failed and the rest were done. -/
def partially (data : α) (operation : String) (timestamp : DateTime) (warnings : List String)
    (processed failed : Int) : Outcome α :=
  { status := .partial_, data := some data, operation, timestamp, warnings, processed, failed }

/-- The operation could not be done. -/
def failure (error operation : String) (timestamp : DateTime) (data : Option α := none) :
    Outcome α :=
  { status := .failed, data, error := some error, operation, timestamp }

def isSuccess (outcome : Outcome α) : Bool :=
  outcome.status == .success

/-- The share of items that did not fail. Without items it is one for a success, else zero. -/
def successRate (outcome : Outcome α) : Rat :=
  if outcome.processed = 0 then (if outcome.isSuccess then 1 else 0)
  else ((outcome.processed - outcome.failed : Int) : Rat) / (outcome.processed : Rat)

/-- All the problems, the error last. -/
def messages (outcome : Outcome α) : List String :=
  outcome.warnings ++ (outcome.error.filter (· != "")).toList

/-- The outcome with other data. -/
def map {β : Type} (f : α → β) (outcome : Outcome α) : Outcome β :=
  { outcome with data := outcome.data.map f }

/-- The status that an outcome in use shows. A value that was put in its place is no status. -/
def shownStatus? (held : Held (Outcome Json)) : Option Status :=
  if (Members.get? held.loose "status").isSome then none else some held.record.status

/-- The value of a field that has to hold a number. -/
def shownNumber (held : Held (Outcome Json)) (name : String) (ofRecord : Outcome Json → Int) :
    Except ValueFault Number :=
  match (held.value name fun outcome => .int (ofRecord outcome)).asNumber? with
  | some number => .ok number
  | none => .error .wrongKind

/-- The share of items that did not fail, as `successRate` gives it. -/
def shownRate (held : Held (Outcome Json)) : Except ValueFault Json := do
  let processed ← shownNumber held "items_processed" (·.processed)
  if processed.isZero then
    return .float (if shownStatus? held = some .success then 1.0 else 0.0)
  let failed ← shownNumber held "items_failed" (·.failed)
  let done ← (processed.sub failed).mapError .number
  return .float (← (done.div processed).mapError .number)

/-- All the problems, the error last, as `messages` gives them. -/
def shownMessages (held : Held (Outcome Json)) : Except ValueFault Json := do
  let warnings ← (held.value "warnings" fun outcome => Json.strings outcome.warnings).parts
  let error := held.value "error" fun outcome => Json.ofText? outcome.error
  return .arr (warnings ++ if error.isTruthy then [error] else [])

/-- The fields of an outcome with any data. -/
def schema (now : DateTime) : Schema (Outcome Json) where
  title := "OperationResult"
  initial := { status := .success, operation := "", timestamp := now }
  -- A failure is fatal if it is not safe to go on after it.
  derived := [
    ⟨"success", fun held => .ok (shownStatus? held == some .success)⟩,
    ⟨"is_fatal", fun held => .ok (shownStatus? held == some .failed &&
      !(held.value "recoverable" fun outcome => outcome.recoverable).isTruthy)⟩,
    ⟨"success_rate", shownRate⟩]
  fields := [
    .required "status" (Reader.named Status.ofName?) (·.status) (.str ·.name)
      fun v o => { o with status := v },
    .optional "data" (Reader.nullable Reader.any) (·.data) (Json.ofOption id)
      fun v o => { o with data := v },
    .optional "error" (Reader.nullable Reader.text) (·.error) Json.ofText?
      fun v o => { o with error := v },
    .optional "error_details" (Reader.nullable Reader.object) (·.errorDetails) (Json.ofOption .obj)
      fun v o => { o with errorDetails := v },
    .optional "recoverable" Reader.bool (·.recoverable) .bool fun v o => { o with recoverable := v },
    .optional "warnings" (Reader.list Reader.text) (·.warnings) Json.strings
      fun v o => { o with warnings := v },
    .required "operation_type" Reader.text (·.operation) .str fun v o => { o with operation := v },
    .optional "timestamp" Reader.datetime (·.timestamp) (.str ·.text)
      fun v o => { o with timestamp := v },
    .optional "processing_time_ms" (Reader.nullable Reader.float) (·.milliseconds)
      (Json.ofOption .float) fun v o => { o with milliseconds := v },
    .optional "items_processed" Reader.int (·.processed) .int fun v o => { o with processed := v },
    .optional "items_failed" Reader.int (·.failed) .int fun v o => { o with failed := v }]

/-- The ways to make an outcome, by name. -/
def makers : List (String × Maker) :=
  let of (status : Status) (given : Members) : Json := .obj (("status", .str status.name) :: given)
  [("success_result", {
      takes := ["data", "operation_type", "processing_time_ms", "items_processed"]
      needs := ["data", "operation_type"]
      value := fun given =>
        .ok (of .success (Json.withDefaults [("items_processed", .int 1)] (.obj given)).members) }),
    ("partial_result", {
      takes := ["data", "operation_type", "warnings", "items_processed", "items_failed"]
      needs := ["data", "operation_type", "warnings"]
      value := fun given => do
        let warnings ← ((Members.get? given "warnings").getD .null).parts
        return of .partial_ (given.set "warnings" (.arr warnings)) }),
    ("error_result", {
      takes := ["error", "operation_type", "data", "recoverable", "error_details",
        "processing_time_ms"]
      needs := ["error", "operation_type"]
      value := fun given => .ok (of .failed given) })]

/-- The outcome as an object. -/
def toJson (write : α → Json) (outcome : Outcome α) : Json :=
  (schema outcome.timestamp).toJson (outcome.map write)

end Outcome

end CodeGraph
