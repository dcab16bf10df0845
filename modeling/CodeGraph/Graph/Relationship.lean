import CodeGraph.Schema.Readers
import CodeGraph.Json.Text

namespace CodeGraph

/-- A directed edge with a type tag and a weight from zero to one. -/
structure Relationship where
  id : String
  source : String
  target : String
  tag : String
  weight : Float := 1.0
  metadata : Members := []
  createdAt : DateTime

namespace Relationship

/-- The key and value in the metadata of edges found by similarity. -/
def discoveredByKey : String := "discoveredBy"

def semanticDiscovery : String := "semantic"

/-- Whether the edge was found by similarity. -/
def isSemantic (edge : Relationship) : Bool :=
  match edge.metadata.get? discoveredByKey with
  | some (.str s) => s == semanticDiscovery
  | _ => false

def schema (now : DateTime) : Schema Relationship where
  title := "Relationship"
  assignment := .never
  initial := { id := "", source := "", target := "", tag := "", createdAt := now }
  derived := [.of "is_semantic" (.bool ·.isSemantic)]
  fields := [
    .required "id" Reader.text (·.id) .str fun v e => { e with id := v },
    .required "source_id" Reader.text (·.source) .str fun v e => { e with source := v },
    .required "target_id" Reader.text (·.target) .str fun v e => { e with target := v },
    .required "relationship" (fun value => .ok value.text) (·.tag) .str
      fun v e => { e with tag := v },
    .optional "weight" (Reader.refine Reader.float Reader.unit) (·.weight) .float
      fun v e => { e with weight := v },
    .optional "metadata" Reader.object (·.metadata) .obj fun v e => { e with metadata := v },
    .optional "created_at" Reader.datetime (·.createdAt) (.str ·.text)
      fun v e => { e with createdAt := v }]

def toJson (edge : Relationship) : Json :=
  (schema edge.createdAt).toJson edge

end Relationship

/-- Types of relationships that can be read off a program's structure. -/
inductive RelationshipType where
  | imports
  | exports
  | calls
  | extends_
  | implements
  | usesType
  | contains
  | instantiates
  | references
deriving Repr, DecidableEq, Inhabited

namespace RelationshipType

def name : RelationshipType → String
  | .imports => "imports"
  | .exports => "exports"
  | .calls => "calls"
  | .extends_ => "extends"
  | .implements => "implements"
  | .usesType => "uses_type"
  | .contains => "contains"
  | .instantiates => "instantiates"
  | .references => "references"

def all : List RelationshipType :=
  [.imports, .exports, .calls, .extends_, .implements, .usesType, .contains, .instantiates,
    .references]

/-- The type with a name. -/
def ofName? (s : String) : Option RelationshipType :=
  all.find? (·.name == s)

end RelationshipType

/-- A relationship found in a parsed file, its ends given by name. -/
structure ExtractedRelationship where
  source : String
  sourceType : String
  target : String
  targetType : Option String := none
  type : RelationshipType
  weight : Float := 1.0
  metadata : Members := []

namespace ExtractedRelationship

def schema : Schema ExtractedRelationship where
  title := "ExtractedRelationship"
  assignment := .never
  initial := { source := "", sourceType := "", target := "", type := .references }
  fields := [
    .required "source" Reader.text (·.source) .str fun v r => { r with source := v },
    .required "source_type" Reader.text (·.sourceType) .str fun v r => { r with sourceType := v },
    .required "target" Reader.text (·.target) .str fun v r => { r with target := v },
    .optional "target_type" (Reader.nullable Reader.text) (·.targetType) Json.ofText?
      fun v r => { r with targetType := v },
    .required "type" (Reader.named RelationshipType.ofName?) (·.type) (.str ·.name)
      fun v r => { r with type := v },
    .optional "weight" (Reader.refine Reader.float Reader.unit) (·.weight) .float
      fun v r => { r with weight := v },
    .optional "metadata" Reader.object (·.metadata) .obj fun v r => { r with metadata := v }]

def toJson (relationship : ExtractedRelationship) : Json :=
  schema.toJson relationship

end ExtractedRelationship

end CodeGraph
