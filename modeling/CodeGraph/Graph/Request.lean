import CodeGraph.Graph.Store
import CodeGraph.Program
import CodeGraph.Transaction

namespace CodeGraph

/-- An entity found by similarity. -/
structure SimilarityMatch where
  entity : String
  score : Number
  kind : Option String := none
deriving Repr

/-- A search for entities similar to a text. -/
structure SimilaritySearch where
  text : String
  limit : Int
  threshold : Number
  /-- The kinds of entities asked for. -/
  kinds : Option (List String) := none
deriving Repr

/-- One request. -/
inductive GraphRequest where
  | entity (id : String)
  | entityNamed (qualifiedName : String)
  | entitiesOfKinds (kinds : List String) (limit : Option Int)
  | upsert (entity : Entity)
  | create (source target tag : String) (weight : Float) (metadata : Members)
  | hasEdge (source target : String) (tag : Option String)
  | edgesOf (id : String) (direction : Direction) (tags : List String) (least : Option Number)
      (limit : Option Int)
  | edgesTagged (tag : String) (below : Option Number)
  | delete (id : String)
  | edgeCount (tag : Option String)
  | search (search : SimilaritySearch)

namespace GraphRequest

/-- What a request is answered with. -/
def Value : GraphRequest → Type
  | .entity _ | .entityNamed _ => Option Entity
  | .entitiesOfKinds _ _ => List Entity
  | .upsert _ => Entity
  | .create _ _ _ _ _ => Option Relationship
  | .hasEdge _ _ _ | .delete _ => Bool
  | .edgesOf _ _ _ _ _ | .edgesTagged _ _ => List Relationship
  | .edgeCount _ => Nat
  | .search _ => List SimilarityMatch

end GraphRequest

/-- A program that works on the stored graph. -/
abbrev GraphTask := Task StoreFailure GraphRequest GraphRequest.Value

namespace GraphTask

def entity? (id : String) : GraphTask (Option Entity) :=
  Task.call (GraphRequest.entity id)

def entityNamed? (qualifiedName : String) : GraphTask (Option Entity) :=
  Task.call (GraphRequest.entityNamed qualifiedName)

def entitiesOfKinds (kinds : List String) : GraphTask (List Entity) :=
  Task.call (GraphRequest.entitiesOfKinds kinds none)

def upsert (entity : Entity) : GraphTask Entity :=
  Task.call (GraphRequest.upsert entity)

def create (source target tag : String) (weight : Float) (metadata : Members) :
    GraphTask (Option Relationship) :=
  Task.call (GraphRequest.create source target tag weight metadata)

def hasEdge (source target : String) (tag : Option String) : GraphTask Bool :=
  Task.call (GraphRequest.hasEdge source target tag)

def edgesOf (id : String) (direction : Direction) (tags : List String)
    (least : Option Number := none) (limit : Option Int := none) : GraphTask (List Relationship) :=
  Task.call (GraphRequest.edgesOf id direction tags least limit)

def edgesTagged (tag : String) (below : Option Number) : GraphTask (List Relationship) :=
  Task.call (GraphRequest.edgesTagged tag below)

def delete (id : String) : GraphTask Bool :=
  Task.call (GraphRequest.delete id)

def search (search : SimilaritySearch) : GraphTask (List SimilarityMatch) :=
  Task.call (GraphRequest.search search)

end GraphTask

/-- What answers similarity searches. -/
abbrev Similarity := SimilaritySearch → Except StoreFailure (List SimilarityMatch)

/-- The work on the stored graph that a request asks for. A search is no part of it. -/
def GraphStore.operation (now : DateTime) (similar : Similarity) :
    (request : GraphRequest) → TableWork StoreFailure GraphStore request.Value
  | .entity id => .query fun store => .ok (store.entity? id)
  | .entityNamed name => .query fun store => .ok (store.entityNamed? name)
  | .entitiesOfKinds kinds limit => .query fun store => store.entitiesOfKinds kinds limit
  | .upsert entity => .statement (upsert now entity)
  | .create source target tag weight metadata =>
    .statement (create now source target tag weight metadata)
  | .hasEdge source target tag => .query fun store => .ok (store.hasEdge source target tag)
  | .edgesOf id direction tags least limit =>
    .query fun store => store.edgesOf id direction tags least limit
  | .edgesTagged tag below => .query fun store => store.edgesTagged tag below
  | .delete id => .statement fun store => .ok (store.delete id)
  | .edgeCount tag => .query fun store => .ok (store.edgeCount tag)
  | .search search => .query fun _ => similar search

/-- Answers a request from the stored graph, in a transaction, and from a similarity search. -/
def GraphStore.respond (now : DateTime) (similar : Similarity) (request : GraphRequest)
    (store : GraphStore) : Except StoreFailure request.Value × GraphStore :=
  (operation now similar request).transact store

end CodeGraph
