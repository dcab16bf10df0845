import CodeGraph.Graph.Entity
import CodeGraph.Graph.Relationship

namespace CodeGraph

/-- Why an operation on the stored graph failed. -/
inductive StoreFailure where
  /-- The store or the similarity search is out of order. -/
  | fault (reason : String)
  /-- Another entity has the id. -/
  | idTaken
  /-- A number has more than 64 bits. -/
  | outOfRange
  | badDirection (given : String)
  | invalid (reason : Invalid)
  /-- A number of another kind is needed. -/
  | number (cause : NumberFault)
  /-- An operation does not take what it was given. -/
  | badArguments
deriving Repr, DecidableEq

def StoreFailure.message : StoreFailure → String
  | .fault reason => reason
  | .idTaken => "UNIQUE constraint failed: entities.id"
  | .outOfRange => "integer too large to store"
  | .badDirection given =>
    s!"direction must be one of ('in', 'out', 'both'), got {Json.quoted given}"
  | .invalid reason => reason.message
  | .number cause => cause.message
  | .badArguments => "the operation does not take these arguments"

/-- Which edges of an entity are meant: those that end at it, those that start at it, or all. -/
inductive Direction where
  | into
  | out
  | both
deriving Repr, DecidableEq

def Direction.ofName (s : String) : Except StoreFailure Direction :=
  if s == "in" then .ok .into
  else if s == "out" then .ok .out
  else if s == "both" then .ok .both
  else .error (.badDirection s)

/-- The first items of a list, all of them for a negative limit or none given. -/
def limited {α : Type} (limit : Option Int) (items : List α) : List α :=
  match limit with
  | some n => if n < 0 then items else items.take n.toNat
  | none => items

/-- The stored graph. -/
structure GraphStore where
  entities : List Entity := []
  edges : List Relationship := []
  /-- How many edge ids have been given out. -/
  issued : Nat := 0

namespace GraphStore

def empty : GraphStore := {}

/-- The id of the edge that is created after so many others. -/
def edgeId (serial : Nat) : String :=
  "00000000-0000-4000-8000-" ++ Decimal.padded 12 serial

def entity? (store : GraphStore) (id : String) : Option Entity :=
  store.entities.find? (·.id == id)

def entityNamed? (store : GraphStore) (qualifiedName : String) : Option Entity :=
  store.entities.find? (·.qualifiedName == qualifiedName)

/-- Entities of the listed kinds, or of all kinds if none is listed. -/
def entitiesOfKinds (store : GraphStore) (kinds : List String) (limit : Option Int) :
    Except StoreFailure (List Entity) :=
  if limit.all fitsWord then
    .ok (limited limit (store.entities.filter fun e => kinds.isEmpty || kinds.contains e.kind.name))
  else .error .outOfRange

/-- An entity replaced by a newer version. Its id and time of creation stay. -/
def refresh (now : DateTime) (old new : Entity) : Entity :=
  { new with id := old.id, createdAt := old.createdAt, updatedAt := now }

/-- Stores an entity. One with the same qualified name is replaced, keeping its id and time of
creation. -/
def upsert (now : DateTime) (new : Entity) (store : GraphStore) :
    Except StoreFailure (Entity × GraphStore) :=
  if !(new.startLine.all fitsWord && new.endLine.all fitsWord) then .error .outOfRange
  else match store.entityNamed? new.qualifiedName with
    | some old =>
      let entity := refresh now old new
      let entities := store.entities.map fun e =>
        if e.qualifiedName == new.qualifiedName then entity else e
      .ok (entity, { store with entities })
    | none =>
      if (store.entity? new.id).isSome then .error .idTaken
      else
        let entity := { new with updatedAt := now }
        .ok (entity, { store with entities := store.entities ++ [entity] })

/-- Whether an edge joins two entities in this direction, with a tag if one is given. -/
def joins (source target : String) (tag : Option String) (edge : Relationship) : Bool :=
  edge.source == source && edge.target == target && tag.all (· == edge.tag)

def hasEdge (store : GraphStore) (source target : String) (tag : Option String) : Bool :=
  store.edges.any (joins source target tag)

/-- Creates an edge, unless one with the same ends and tag is there. -/
def create (now : DateTime) (source target tag : String) (weight : Float) (metadata : Members)
    (store : GraphStore) : Except StoreFailure (Option Relationship × GraphStore) :=
  match Reader.unit weight with
  | .error issues =>
    .error (.invalid ⟨"Relationship", issues.map (·.under (.field "weight"))⟩)
  | .ok weight =>
    if store.hasEdge source target (some tag) then .ok (none, store)
    else
      let edge : Relationship := {
        id := edgeId store.issued, source, target, tag, weight, metadata, createdAt := now }
      .ok (some edge, { store with edges := store.edges ++ [edge], issued := store.issued + 1 })

/-- Whether an edge touches an entity in a direction. -/
def touches (id : String) (direction : Direction) (edge : Relationship) : Bool :=
  match direction with
  | .into => edge.target == id
  | .out => edge.source == id
  | .both => edge.source == id || edge.target == id

/-- Edges of an entity, of the listed tags if any is listed, and of at least a weight. -/
def edgesOf (store : GraphStore) (id : String) (direction : Direction) (tags : List String)
    (least : Option Number) (limit : Option Int) : Except StoreFailure (List Relationship) :=
  if limit.all fitsWord && least.all (·.isStorable) then
    .ok (limited limit (store.edges.filter fun edge =>
      touches id direction edge && (tags.isEmpty || tags.contains edge.tag) &&
        least.all (·.nearest ≤ edge.weight)))
  else .error .outOfRange

/-- Edges with a tag, of less than a weight if one is given. -/
def edgesTagged (store : GraphStore) (tag : String) (below : Option Number) :
    Except StoreFailure (List Relationship) :=
  if below.all (·.isStorable) then
    .ok (store.edges.filter fun edge => edge.tag == tag && below.all (edge.weight < ·.nearest))
  else .error .outOfRange

/-- Removes an edge, and tells whether it was there. -/
def delete (id : String) (store : GraphStore) : Bool × GraphStore :=
  (store.edges.any (·.id == id), { store with edges := store.edges.filter (·.id != id) })

/-- The number of edges, with a tag if one is given. -/
def edgeCount (store : GraphStore) (tag : Option String) : Nat :=
  (store.edges.filter fun edge => tag.all (· == edge.tag)).length

end GraphStore

end CodeGraph
