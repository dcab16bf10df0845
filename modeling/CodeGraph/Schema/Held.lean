import CodeGraph.Json.Map
import CodeGraph.Schema.Basic

namespace CodeGraph

/-- Why a name could not be assigned. -/
inductive AssignFault where
  | noField (title name : String)
  /-- The name stands for something that is not kept in a field, or leads nowhere. -/
  | fixed
  | invalid (cause : Invalid)
deriving Repr, DecidableEq

def AssignFault.message : AssignFault → String
  | .noField title name => s!"\"{title}\" object has no field \"{name}\""
  | .fixed => "the name cannot be assigned"
  | .invalid cause => cause.message

/-- Names that every record type keeps for what is known about its fields. -/
def keptNames : List String := ["model_extra", "model_fields_set"]

/-- Names with an underscore in front are for private use. What is assigned to them is not seen. -/
def isPrivate (name : String) : Bool :=
  name.toList.head? == some '_'

namespace Held

variable {α : Type}

/-- The fields with the values that they hold. -/
def members (schema : Schema α) (held : Held α) : Members :=
  schema.fields.map fun field => (field.name, held.value field.name field.view)

/-- What follows from the values of the fields, each with its name. -/
def derived (schema : Schema α) (held : Held α) : List (String × Except ValueFault Json) :=
  schema.derived.map fun derived => (derived.name, derived.value held)

/-- Why a name cannot be assigned, whatever the value. -/
def refusal? (schema : Schema α) (name : String) : Option AssignFault :=
  let issue (kind : IssueKind) : AssignFault := .invalid ⟨schema.title, [⟨[.field name], kind⟩]⟩
  if schema.assignment = .never then some (issue .frozen)
  else if keptNames.contains name || schema.derived.any (·.name == name) then some .fixed
  else if schema.fields.any (·.name == name) then none
  else if schema.assignment = .checked then some (issue .unknownField)
  else some (.noField schema.title name)

/-- Assigns a field. A record whose type checks values keeps those that its reader accepts. -/
def assign (schema : Schema α) (held : Held α) (name : String) (value : Json) :
    Except AssignFault (Held α) :=
  if isPrivate name then .ok held
  else match refusal? schema name, schema.fields.find? (·.name == name) with
  | some fault, _ => .error fault
  | none, none => .error .fixed
  | none, some field =>
    if schema.assignment = .free then .ok { held with loose := held.loose.set name value }
    else match field.assign value with
    | .ok set => .ok { held with record := set held.record }
    | .error issues =>
      .error (.invalid ⟨schema.title, issues.map (·.under (.field name))⟩)

end Held

/-- The record with a value in a field, for a record type that checks values. -/
def Schema.assign {α : Type} (schema : Schema α) (a : α) (name : String) (value : Json) :
    Except AssignFault α :=
  (Held.assign schema ⟨a, []⟩ name value).map (·.record)

end CodeGraph
