import CodeGraph.Graph.Request
import CodeGraph.Outcome
import CodeGraph.Structure.Placeholder

namespace CodeGraph.Structure

/-- Ids of the names met so far. -/
abbrev Resolved := List (String × String)

/-- Where writing stands: ids found, edges created, and why relationships could not be stored. -/
structure Progress where
  resolved : Resolved := []
  created : Nat := 0
  warnings : List String := []

/-- The id of the entity with a name, which is made if there is none. -/
def resolve (now : DateTime) (name : String) (tag filePath : Option String) (resolved : Resolved) :
    GraphTask (String × Resolved) := do
  match resolved.lookup name with
  | some id => return (id, resolved)
  | none =>
    let entity ← match ← GraphTask.entityNamed? name with
      | some entity => pure entity
      | none =>
        match Placeholder.entity now name tag filePath with
        | .ok entity => GraphTask.upsert entity
        | .error invalid => throw (.invalid invalid)
    return (entity.id, (name, entity.id) :: resolved)

/-- Creates the edge of a relationship unless it is there. Tells whether it was created. -/
def connect (source target : String) (relationship : ExtractedRelationship) : GraphTask Bool := do
  let tag := relationship.type.name
  if ← GraphTask.hasEdge source target (some tag) then return false
  else
    let edge ← GraphTask.create source target tag relationship.weight relationship.metadata
    return edge.isSome

/-- Stores one relationship. Names found before a failure stay known. -/
def writeOne (now : DateTime) (filePath : Option String) (relationship : ExtractedRelationship)
    (progress : Progress) : GraphTask Progress := do
  let failed (progress : Progress) (failure : StoreFailure) : Progress :=
    let ends := s!"{relationship.source} -> {relationship.target}"
    let warning := s!"Failed to store {relationship.type.name} {ends}: {failure.message}"
    { progress with warnings := progress.warnings ++ [warning] }
  match ← Task.attempt
    (resolve now relationship.source (some relationship.sourceType) filePath progress.resolved) with
  | .error failure => return failed progress failure
  | .ok (source, resolved) =>
    let progress := { progress with resolved }
    match ← Task.attempt (resolve now relationship.target relationship.targetType none resolved) with
    | .error failure => return failed progress failure
    | .ok (target, resolved) =>
      let progress := { progress with resolved }
      match ← Task.attempt (connect source target relationship) with
      | .error failure => return failed progress failure
      | .ok created => return { progress with created := progress.created + created.toNat }

/-- Stores relationships one after another. -/
def writeAll (now : DateTime) (filePath : Option String) :
    List ExtractedRelationship → Progress → GraphTask Progress
  | [], progress => return progress
  | relationship :: rest, progress => do
    writeAll now filePath rest (← writeOne now filePath relationship progress)

/-- Stores relationships. The data of the outcome is the number of edges created. -/
def write (now : DateTime) (relationships : List ExtractedRelationship)
    (filePath : Option String := none) : GraphTask (Outcome Nat) := do
  let progress ← writeAll now filePath relationships {}
  let operation := "write_structural"
  let failed := progress.warnings.length
  if failed = 0 then
    return .success progress.created operation now relationships.length
  else
    return .partially progress.created operation now progress.warnings relationships.length failed

end CodeGraph.Structure
