import CodeGraph.Json.Access
import CodeGraph.Linking.Linker

namespace CodeGraph

/-- The record that an argument is, or why it is not one. -/
def GraphTask.checked {α : Type} (schema : Schema α) (value : Json) : GraphTask α :=
  match schema.validate value with
  | .ok a => return a
  | .error cause => throw (.invalid cause)

/-- Creates an edge from unchecked arguments. Faults of the store are met before faults of the
arguments. -/
def GraphTask.createGiven (now : DateTime) (source target tag weight metadata : Json) :
    GraphTask (Option Relationship) := do
  let given := [("id", .str ""), ("source_id", source), ("target_id", target),
    ("relationship", tag), ("weight", weight),
    ("metadata", if metadata.isTruthy then metadata else .obj [])]
  match (Relationship.schema now).validate (.obj given) with
  | .ok r => GraphTask.create r.source r.target r.tag r.weight r.metadata
  | .error cause =>
    match source, target with
    | .str s, .str t =>
      match ← Task.attempt (GraphTask.create s t tag.text 2.0 []) with
      | .error (.fault reason) => throw (.fault reason)
      | _ => throw (.invalid cause)
    | _, _ => throw (.invalid cause)

/-- The edges that an argument asks for. -/
def GraphTask.aimed {α : Type} (arguments : Json) (task : Direction → GraphTask α) : GraphTask α :=
  match Direction.ofName (arguments.textAt "direction" "both") with
  | .ok direction => task direction
  | .error failure => throw failure

namespace Linker

/-- A list of results as a value. -/
def listed {α : Type} (write : α → Json) (items : List α) : Json :=
  .arr (items.map write)

/-- An operation of the store. -/
def storeOperation? (now : DateTime) (name : String) (a : Json) : Option (GraphTask Json) :=
  let found := Json.ofOption Entity.toJson
  let edges := listed Relationship.toJson
  let count (n : Nat) : Json := .int n
  match name with
  | "get_entity" => some (found <$> GraphTask.entity? (a.textAt "entity_id"))
  | "get_entity_by_qualified_name" =>
    some (found <$> GraphTask.entityNamed? (a.textAt "qualified_name"))
  | "get_entities_by_type" => some (listed Entity.toJson <$>
      Task.call (GraphRequest.entitiesOfKinds (a.textsAt "entity_types") (a.intAt? "limit")))
  | "upsert_entity" => some do
      let entity ← GraphTask.checked (Entity.schema now) (a.field "entity")
      return (← GraphTask.upsert entity).toJson
  | "create_relationship" => some (Json.ofOption Relationship.toJson <$>
      GraphTask.createGiven now (a.field "source_id") (a.field "target_id") (a.field "relationship")
        ((a.get? "weight").getD (.float 1.0)) (a.field "metadata"))
  | "relationship_exists" => some (Json.bool <$> GraphTask.hasEdge (a.textAt "source_id")
      (a.textAt "target_id") (a.wordAt? "relationship"))
  | "get_relationships_for_entity" => some (GraphTask.aimed a fun direction =>
      edges <$> GraphTask.edgesOf (a.textAt "entity_id") direction (a.textsAt "types")
        (a.numberAt? "min_weight") (a.intAt? "limit"))
  | "get_relationships_by_type" => some (edges <$>
      GraphTask.edgesTagged (a.textAt "relationship") (a.numberAt? "max_weight"))
  | "delete_relationship" => some (Json.bool <$> GraphTask.delete (a.textAt "relationship_id"))
  | "count_relationships" => some (count <$> Task.call (GraphRequest.edgeCount (a.wordAt? "relationship")))
  | _ => none

/-- An operation of the linker. -/
def linkOperation? (linker : Linker) (name : String) (a : Json) : Option (GraphTask Json) :=
  let id := a.textAt "entity_id"
  let least (default : Float) := a.numberAt "min_similarity" (.float default)
  let tag := a.wordAt? "relationship_type"
  let related := listed RelatedEntity.toJson
  let count (n : Nat) : Json := .int n
  match name with
  | "discover_relationships" => some (DiscoveryResult.schema.toJson <$>
      linker.discover (least 0.75) (a.intAt "max_per_entity" 5)
        (a.textsAt "entity_types" linkedKinds) tag (a.flagAt "skip_existing" true))
  | "link_new_entity" => some (count <$> linker.linkNewEntity id (least 0.75)
      (a.intAt "max_links" 5) tag (a.flagAt "bidirectional"))
  | "find_related" => some (related <$> findRelated (a.textAt "query") (a.intAt "limit" 10)
      (least 0.5) (a.textsAt "entity_types"))
  | "find_related_concepts" => some (related <$>
      findRelatedConcepts id (a.intAt "limit" 10) (least 0.6))
  | "get_semantic_links" => some (GraphTask.aimed a fun direction =>
      listed SemanticLink.toJson <$> linker.semanticLinks id direction (a.numberAt? "min_weight"))
  | "update_links" => some (count <$> linker.updateLinks id (least 0.75) (a.intAt "max_links" 5))
  | "get_suggestions" => some (listed LinkSuggestion.toJson <$>
      suggestions id (a.intAt "limit" 5) (least 0.7))
  | "prune_weak_links" => some (count <$>
      linker.pruneWeakLinks ((a.get? "min_weight").elim (some (.float 0.6)) Json.asNumber?))
  | "batch_link" => some do
      let linking ← linker.batchLink (a.textsAt "entity_ids") (least 0.75)
        (a.intAt "max_links_per_entity" 5)
      let steps := linking.progress.map fun step => Json.arr [.int step.1, .int step.2]
      return .obj [("result", BatchLinkResult.schema.toJson linking.toBatchLinkResult),
        ("progress", .arr steps)]
  | _ => none

/-- The arguments that each operation takes, and those of them that it needs. -/
def parameters : List (String × List String × List String) :=
  [("get_entity", ["entity_id"], ["entity_id"]),
    ("get_entity_by_qualified_name", ["qualified_name"], ["qualified_name"]),
    ("get_entities_by_type", ["entity_types", "limit"], []),
    ("upsert_entity", ["entity"], ["entity"]),
    ("create_relationship", ["source_id", "target_id", "relationship", "weight", "metadata"],
      ["source_id", "target_id", "relationship"]),
    ("relationship_exists", ["source_id", "target_id", "relationship"], ["source_id", "target_id"]),
    ("get_relationships_for_entity", ["entity_id", "direction", "types", "min_weight", "limit"],
      ["entity_id"]),
    ("get_relationships_by_type", ["relationship", "max_weight"], ["relationship"]),
    ("delete_relationship", ["relationship_id"], ["relationship_id"]),
    ("count_relationships", ["relationship"], []),
    ("discover_relationships", ["min_similarity", "max_per_entity", "entity_types",
      "relationship_type", "skip_existing"], []),
    ("link_new_entity", ["entity_id", "min_similarity", "max_links", "relationship_type",
      "bidirectional"], ["entity_id"]),
    ("find_related", ["query", "limit", "min_similarity", "entity_types"], ["query"]),
    ("find_related_concepts", ["entity_id", "limit", "min_similarity"], ["entity_id"]),
    ("get_semantic_links", ["entity_id", "direction", "min_weight"], ["entity_id"]),
    ("update_links", ["entity_id", "min_similarity", "max_links"], ["entity_id"]),
    ("get_suggestions", ["entity_id", "limit", "min_similarity"], ["entity_id"]),
    ("batch_link", ["entity_ids", "min_similarity", "max_links_per_entity"], ["entity_ids"]),
    ("prune_weak_links", ["min_weight"], [])]

/-- An operation by its name, with its arguments. It fails if it does not take them. -/
def operation? (linker : Linker) (now : DateTime) (name : String) (arguments : Members) :
    Option (GraphTask Json) :=
  match parameters.lookup name with
  | none => none
  | some (takes, needs) =>
    if arguments.suit takes needs then
      (storeOperation? now name (.obj arguments)).or (linker.linkOperation? name (.obj arguments))
    else some (throw .badArguments)

end Linker

end CodeGraph
