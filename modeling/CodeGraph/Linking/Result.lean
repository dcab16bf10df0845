import CodeGraph.Graph.Entity
import CodeGraph.Graph.Relationship

namespace CodeGraph

/-- Totals of a pass over many entities. -/
structure DiscoveryResult where
  created : Int := 0
  processed : Int := 0
  skipped : Int := 0
  warnings : List String := []

def DiscoveryResult.schema : Schema DiscoveryResult where
  title := "DiscoveryResult"
  initial := {}
  fields := [
    .optional "created" Reader.int (·.created) .int fun v r => { r with created := v },
    .optional "entities_processed" Reader.int (·.processed) .int fun v r => { r with processed := v },
    .optional "entities_skipped" Reader.int (·.skipped) .int fun v r => { r with skipped := v },
    .optional "warnings" (Reader.list Reader.text) (·.warnings) Json.strings
      fun v r => { r with warnings := v }]

/-- Totals of linking a list of entities. -/
structure BatchLinkResult where
  created : Int := 0
  processed : Int := 0
  warnings : List String := []

def BatchLinkResult.schema : Schema BatchLinkResult where
  title := "BatchLinkResult"
  initial := {}
  fields := [
    .optional "total_created" Reader.int (·.created) .int fun v r => { r with created := v },
    .optional "entities_processed" Reader.int (·.processed) .int fun v r => { r with processed := v },
    .optional "warnings" (Reader.list Reader.text) (·.warnings) Json.strings
      fun v r => { r with warnings := v }]

/-- Linking a list of entities, with the progress reported after each of them: how many are done, of how
many. -/
structure BatchLinking extends BatchLinkResult where
  progress : List (Int × Nat) := []

/-- One more entity is done, and this is reported. -/
def BatchLinking.report (total : Nat) (linking : BatchLinking) : BatchLinking :=
  let processed := linking.processed + 1
  { linking with processed, progress := linking.progress ++ [(processed, total)] }

/-- A value for fields that have to be given, until they are read. -/
private def noEntity (now : DateTime) : Entity := (Entity.schema now).initial

/-- An entity found by similarity. -/
structure RelatedEntity where
  entity : Entity
  similarity : Float

def RelatedEntity.schema (now : DateTime) : Schema RelatedEntity where
  title := "RelatedEntity"
  assignment := .never
  initial := { entity := noEntity now, similarity := 0.0 }
  fields := [
    .required "entity" (Entity.schema now).read (·.entity) Entity.toJson
      fun v r => { r with entity := v },
    .required "similarity" Reader.float (·.similarity) .float fun v r => { r with similarity := v }]

/-- An edge found by similarity, seen from one of its ends. -/
structure SemanticLink where
  relationship : Relationship
  /-- The entity at the other end, if it is stored. -/
  entity : Option Entity := none
  /-- "out" if the edge starts at this end, else "in". -/
  direction : String

def SemanticLink.schema (now : DateTime) : Schema SemanticLink where
  title := "SemanticLink"
  assignment := .never
  initial := { relationship := (Relationship.schema now).initial, direction := "" }
  fields := [
    .required "relationship" (Relationship.schema now).read (·.relationship) Relationship.toJson
      fun v r => { r with relationship := v },
    .optional "entity" (Reader.nullable (Entity.schema now).read) (·.entity)
      (Json.ofOption Entity.toJson) fun v r => { r with entity := v },
    .required "direction" Reader.text (·.direction) .str fun v r => { r with direction := v }]

/-- A similar entity that is not joined to this one yet. -/
structure LinkSuggestion where
  entity : Entity
  similarity : Float
  reason : String

def LinkSuggestion.schema (now : DateTime) : Schema LinkSuggestion where
  title := "LinkSuggestion"
  assignment := .never
  initial := { entity := noEntity now, similarity := 0.0, reason := "" }
  fields := [
    .required "entity" (Entity.schema now).read (·.entity) Entity.toJson
      fun v r => { r with entity := v },
    .required "similarity" Reader.float (·.similarity) .float fun v r => { r with similarity := v },
    .required "reason" Reader.text (·.reason) .str fun v r => { r with reason := v }]

def RelatedEntity.toJson (related : RelatedEntity) : Json :=
  (schema related.entity.createdAt).toJson related

def SemanticLink.toJson (link : SemanticLink) : Json :=
  (schema link.relationship.createdAt).toJson link

def LinkSuggestion.toJson (suggestion : LinkSuggestion) : Json :=
  (schema suggestion.entity.createdAt).toJson suggestion

end CodeGraph
