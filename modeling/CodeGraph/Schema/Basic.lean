import CodeGraph.Files.Error

namespace CodeGraph

/-- A step on the way to a place in a value. -/
inductive PathStep where
  | field (name : String)
  | index (position : Nat)
deriving Repr, DecidableEq

/-- What can be wrong with a value. -/
inductive IssueKind where
  | missing
  | modelType
  | stringType
  | stringPattern
  | enum
  | boolType
  | boolParsing
  | intType
  | intParsing
  | intParsingSize
  | intFromFloat
  | floatType
  | floatParsing
  | finiteNumber
  | tooSmall
  | tooLarge
  | listType
  | dictType
  | pathType
  | datetimeType
  | datetimeNumber
  | datetimeText
  | frozen
  | unknownField
  | refused (reason : String)
  /-- The value could not be checked, for a path in it cannot be followed. -/
  | unreachable (cause : FileError)
deriving Repr, DecidableEq

/-- The name of a kind of issue. -/
def IssueKind.name : IssueKind → String
  | .missing => "missing"
  | .modelType => "model_type"
  | .stringType => "string_type"
  | .stringPattern => "string_pattern_mismatch"
  | .enum => "enum"
  | .boolType => "bool_type"
  | .boolParsing => "bool_parsing"
  | .intType => "int_type"
  | .intParsing => "int_parsing"
  | .intParsingSize => "int_parsing_size"
  | .intFromFloat => "int_from_float"
  | .floatType => "float_type"
  | .floatParsing => "float_parsing"
  | .finiteNumber => "finite_number"
  | .tooSmall => "greater_than_equal"
  | .tooLarge => "less_than_equal"
  | .listType => "list_type"
  | .dictType => "dict_type"
  | .pathType => "path_type"
  | .datetimeType => "datetime_type"
  | .datetimeNumber => "datetime_parsing"
  | .datetimeText => "datetime_from_date_parsing"
  | .frozen => "frozen_instance"
  | .unknownField => "no_such_attribute"
  | .refused _ => "value_error"
  | .unreachable _ => "path_unreachable"

/-- Something wrong at a place in a value. -/
structure Issue where
  place : List PathStep := []
  kind : IssueKind
deriving Repr, DecidableEq

/-- The issue as seen from one step further out. -/
def Issue.under (step : PathStep) (issue : Issue) : Issue :=
  { issue with place := step :: issue.place }

/-- Why a value is not a record of a type. -/
structure Invalid where
  title : String
  issues : List Issue
deriving Repr, DecidableEq

/-- The path that could not be followed in a check. Whatever else is wrong does not count beside it. -/
def Invalid.fileError? (invalid : Invalid) : Option FileError :=
  invalid.issues.findSome? fun issue => match issue.kind with
    | .unreachable cause => some cause
    | _ => none

/-- A summary, followed by a line for each issue. -/
def Invalid.message (invalid : Invalid) : String :=
  let count := invalid.issues.length
  let step : PathStep → String
    | .field name => name
    | .index i => toString i
  let line (issue : Issue) := ".".intercalate (issue.place.map step) ++ ": " ++ issue.kind.name
  let noun := if count = 1 then "error" else "errors"
  s!"{count} validation {noun} for {invalid.title}\n" ++
    "\n".intercalate (invalid.issues.map line)

/-- The issues with their places. A refusal gives its reason. -/
def Invalid.details (invalid : Invalid) : Json :=
  let step : PathStep → Json
    | .field name => .str name
    | .index i => .int i
  .arr (invalid.issues.map fun issue => .obj ([("loc", .arr (issue.place.map step)),
    ("type", .str issue.kind.name)] ++ match issue.kind with
      | .refused reason => [("msg", .str ("Value error, " ++ reason))]
      | _ => []))

/-- A value, or all that is wrong with the input. -/
abbrev Checked (α : Type) := Except (List Issue) α

/-- A reader of values of a type. -/
abbrev Reader (α : Type) := Json → Checked α

/-- One issue with the whole value. -/
def Checked.issue {α : Type} (kind : IssueKind) : Checked α :=
  .error [⟨[], kind⟩]

/-- Issues as seen from one step further out. -/
def Checked.under {α : Type} (step : PathStep) : Checked α → Checked α
  | .ok a => .ok a
  | .error issues => .error (issues.map (·.under step))

/-- A field of a record: how a value for it is read and put into the record, and how it is shown. -/
structure Field (α : Type) where
  name : String
  /-- Another spelling of the name, which goes before the name. -/
  spelling : Option String := none
  isRequired : Bool
  assign : Json → Checked (α → α)
  view : α → Json

/-- A field that has to be given. -/
def Field.required {α β : Type} (name : String) (read : Reader β) (get : α → β) (write : β → Json)
    (set : β → α → α) : Field α where
  name
  isRequired := true
  assign value := (read value).map set
  view a := write (get a)

/-- A field that keeps the initial value if it is not given. -/
def Field.optional {α β : Type} (name : String) (read : Reader β) (get : α → β) (write : β → Json)
    (set : β → α → α) : Field α where
  name
  isRequired := false
  assign value := (read value).map set
  view a := write (get a)

/-- The field with another spelling of its name. -/
def Field.spelled {α : Type} (spelling : String) (field : Field α) : Field α :=
  { field with spelling := some spelling }

/-- The name under which a field that is missing is reported. -/
def Field.label {α : Type} (field : Field α) : String :=
  field.spelling.getD field.name

/-- The value that an object gives for a field, with the name under which it is given. -/
def Field.find? {α : Type} (field : Field α) (members : Members) : Option (String × Json) :=
  ([field.label, field.name].find? fun key => (members.get? key).isSome).bind fun key =>
    (members.get? key).map (key, ·)

/-- A record, and the values that were put into its fields without a check. -/
structure Held (α : Type) where
  record : α
  loose : Members := []

/-- What a field holds: the value put into it, or that of the record. -/
def Held.value {α : Type} (held : Held α) (name : String) (ofRecord : α → Json) : Json :=
  (Members.get? held.loose name).getD (ofRecord held.record)

/-- Why nothing can be made of values. -/
inductive ValueFault where
  /-- A value is of the wrong kind, or there are more or fewer values than are needed. -/
  | wrongKind
  /-- A value has no such member. -/
  | noMember
  | number (fault : NumberFault)
deriving Repr, DecidableEq

/-- The parts of a value that has parts. -/
def Json.parts (value : Json) : Except ValueFault (List Json) :=
  match value.elements? with
  | some parts => .ok parts
  | none => .error .wrongKind

/-- A value that follows from those that a record holds. -/
structure Derived (α : Type) where
  name : String
  value : Held α → Except ValueFault Json

/-- A value that follows from a record whose fields hold nothing else. -/
def Derived.of {α : Type} (name : String) (value : α → Json) : Derived α :=
  ⟨name, fun held => .ok (value held.record)⟩

/-- What may be done with the fields of a record that exists. -/
inductive Assignment where
  /-- No field can be assigned. -/
  | never
  /-- A field takes values that its reader accepts. -/
  | checked
  /-- Values are not checked. -/
  | free
deriving Repr, DecidableEq

/-- A record type: its name, a record with the initial values, its fields, and what follows from them. -/
structure Schema (α : Type) where
  title : String
  assignment : Assignment := .free
  initial : α
  /-- What a value is taken for before it is read. -/
  tidy : Json → Json := id
  fields : List (Field α)
  derived : List (Derived α) := []

namespace Schema

variable {α : Type}

/-- Reads one field into a record, adding to the issues found so far. -/
def readField (members : Members) (state : α × List Issue) (field : Field α) : α × List Issue :=
  match field.find? members with
  | none =>
    if field.isRequired then (state.1, state.2 ++ [⟨[.field field.label], .missing⟩]) else state
  | some (key, value) =>
    match (field.assign value).under (.field key) with
    | .ok set => (set state.1, state.2)
    | .error issues => (state.1, state.2 ++ issues)

/-- Reads an object as a record. Unknown keys are passed over. -/
def read (schema : Schema α) : Reader α := fun value =>
  match schema.tidy value with
  | .obj members =>
    match schema.fields.foldl (readField members) (schema.initial, []) with
    | (a, []) => .ok a
    | (_, issues) => .error issues
  | _ => .issue .modelType

/-- Reads an object as a record, or says why it is not one. -/
def validate (schema : Schema α) (value : Json) : Except Invalid α :=
  (schema.read value).mapError (⟨schema.title, ·⟩)

/-- The record as an object. -/
def toJson (schema : Schema α) (a : α) : Json :=
  .obj (schema.fields.map fun field => (field.name, field.view a))

end Schema

/-- A way to make a record from named arguments: those it takes, those of them it needs, and the value
that is read as the record for them. -/
structure Maker where
  takes : List String
  needs : List String
  value : Members → Except ValueFault Json

/-- Whether there are arguments for all that is needed, and no others. -/
def Members.suit (arguments : Members) (takes needs : List String) : Bool :=
  arguments.all (fun member => takes.contains member.1) &&
    needs.all fun name => (Members.get? arguments name).isSome

/-- The value for arguments, if these can be taken. -/
def Maker.make (maker : Maker) (arguments : Members) : Except ValueFault Json :=
  if arguments.suit maker.takes maker.needs then maker.value arguments else .error .wrongKind

end CodeGraph
