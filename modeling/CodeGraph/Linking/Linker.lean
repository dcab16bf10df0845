import CodeGraph.Graph.Request
import CodeGraph.Linking.Similarity
import CodeGraph.Linking.Result

namespace CodeGraph

/-- Linking with edges of one tag. -/
structure Linker where
  tag : String := "RELATES_TO"
deriving Repr

namespace Linker

/-- The kinds of entities linked when none are named. -/
def linkedKinds : List String :=
  [.function, .class_, .requirement, .concept, .document].map EntityType.name

/-- The kinds of entities that are ideas. -/
def conceptKinds : List String :=
  [.concept, .technology, .pattern].map EntityType.name

/-- The tag asked for, unless it is missing or empty. -/
def tagOr (linker : Linker) (tag : Option String) : String :=
  (tag.filter (· != "")).getD linker.tag

/-- Matches with new entities only, each once. -/
def newMatches (seen : List String) : List SimilarityMatch → List SimilarityMatch
  | [] => []
  | m :: rest =>
    if seen.contains m.entity then newMatches seen rest
    else m :: newMatches (m.entity :: seen) rest

/-- Other entities similar to an entity, each once. -/
def candidates (entity : Entity) (limit : Int) (threshold : Number)
    (kinds : Option (List String) := none) : GraphTask (List SimilarityMatch) := do
  let found ← GraphTask.search { text := entity.searchText, limit, threshold, kinds }
  return newMatches [entity.id] found

/-- The metadata of an edge found by similarity. -/
def discovered (score : Number) : Members :=
  [(Relationship.discoveredByKey, .str Relationship.semanticDiscovery), ("similarity", .ofNumber score)]

/-- Creates an edge unless there is one with the tag. Tells whether it was created. -/
def link (source target tag : String) (score : Number) : GraphTask Bool := do
  if ← GraphTask.hasEdge source target (some tag) then
    return false
  else
    let edge ← GraphTask.create source target tag (Similarity.weight score) (discovered score)
    return edge.isSome

/-- Links an entity to all matches, and counts the edges created. -/
def linkAll (source tag : String) : List SimilarityMatch → GraphTask Nat
  | [] => return 0
  | m :: rest => do
    let created ← link source m.entity tag m.score
    let more ← linkAll source tag rest
    return created.toNat + more

/-- Links the listed entities to what is similar to them, adding to totals. -/
def discoverFrom (tag : String) (skipExisting : Bool)
    (similar : Entity → GraphTask (List SimilarityMatch)) :
    List Entity → DiscoveryResult → GraphTask DiscoveryResult
  | [], result => return result
  | entity :: rest, result => do
    let existing ←
      if skipExisting then GraphTask.edgesOf entity.id .out [tag] none (some 1) else pure []
    if !existing.isEmpty then
      discoverFrom tag skipExisting similar rest { result with skipped := result.skipped + 1 }
    else
      match ← Task.attempt (similar entity) with
      | .error failure =>
        let warning := s!"Similarity search failed for {entity.id}: {failure.message}"
        discoverFrom tag skipExisting similar rest
          { result with warnings := result.warnings ++ [warning] }
      | .ok found =>
        let created ← linkAll entity.id tag found
        discoverFrom tag skipExisting similar rest
          { result with created := result.created + created, processed := result.processed + 1 }

/-- Links every entity of some kinds to what is similar to it. An entity that already has an outgoing
edge with the tag can be skipped, and a failing search is reported as a warning. -/
def discover (linker : Linker) (threshold : Number := .float 0.75) (perEntity : Int := 5)
    (kinds : List String := linkedKinds) (tag : Option String := none) (skipExisting : Bool := true) :
    GraphTask DiscoveryResult := do
  let entities ← GraphTask.entitiesOfKinds kinds
  discoverFrom (linker.tagOr tag) skipExisting
    (fun entity => candidates entity (perEntity + 1) threshold (some kinds)) entities {}

/-- Links an entity to matches until it has so many new outgoing edges. With `bidirectional`, edges
back are created too. Counts all edges created. -/
def linkMatches (source tag : String) (bidirectional : Bool) :
    (allowance : Int) → List SimilarityMatch → GraphTask Nat
  | _, [] => return 0
  | allowance, m :: rest =>
    if allowance ≤ 0 then return 0
    else do
      let out ← link source m.entity tag m.score
      let back ← if bidirectional then link m.entity source tag m.score else pure false
      let more ← linkMatches source tag bidirectional (allowance - out.toInt) rest
      return out.toNat + back.toNat + more

/-- Links one entity to what is similar to it, or to the given matches. -/
def linkEntity (linker : Linker) (id : String) (threshold : Number) (maxLinks : Int)
    (tag : Option String := none) (bidirectional : Bool := false)
    (known : Option (List SimilarityMatch) := none) : GraphTask Nat := do
  let some entity ← GraphTask.entity? id | return 0
  let found ← match known with
    | some found => pure found
    | none => candidates entity (maxLinks + 1) threshold
  linkMatches id (linker.tagOr tag) bidirectional maxLinks found

/-- Links one entity to what is similar to it. Whatever fails, the count is then zero. -/
def linkNewEntity (linker : Linker) (id : String) (threshold : Number := .float 0.75) (maxLinks : Int := 5)
    (tag : Option String := none) (bidirectional : Bool := false) : GraphTask Nat := do
  match ← Task.attempt (linker.linkEntity id threshold maxLinks tag bidirectional) with
  | .ok created => return created
  | .error _ => return 0

/-- A score as the similarity in a record of a type. -/
def similarity (title : String) (score : Number) : GraphTask Float :=
  match Reader.float (.ofNumber score) with
  | .ok x => return x
  | .error issues => throw (.invalid ⟨title, issues.map (·.under (.field "similarity"))⟩)

/-- The matches whose entities are stored, with their entities. -/
def stored : List SimilarityMatch → GraphTask (List RelatedEntity)
  | [] => return []
  | m :: rest => do
    match ← GraphTask.entity? m.entity with
    | some entity =>
      let related : RelatedEntity := ⟨entity, ← similarity "RelatedEntity" m.score⟩
      return related :: (← stored rest)
    | none => stored rest

/-- Entities similar to a text. There are none if the search fails. -/
def findRelated (query : String) (limit : Int := 10) (threshold : Number := .float 0.5)
    (kinds : List String := []) : GraphTask (List RelatedEntity) := do
  let kinds := if kinds.isEmpty then none else some kinds
  match ← Task.attempt (GraphTask.search { text := query, limit, threshold, kinds }) with
  | .ok found => stored found
  | .error _ => return []

/-- The first items of a list. A negative count leaves out so many items at the end. -/
def firstItems {α : Type} (count : Int) (items : List α) : List α :=
  if count < 0 then items.take (items.length - count.natAbs) else items.take count.toNat

/-- Ideas similar to an entity. -/
def findRelatedConcepts (id : String) (limit : Int := 10) (threshold : Number := .float 0.6) :
    GraphTask (List RelatedEntity) := do
  let some entity ← GraphTask.entity? id | return []
  match ← Task.attempt (candidates entity (limit + 1) threshold (some conceptKinds)) with
  | .ok found => return firstItems limit (← stored found)
  | .error _ => return []

/-- Edges seen from one of their ends, each with the entity at the other end. -/
def seenFrom (id : String) : List Relationship → GraphTask (List SemanticLink)
  | [] => return []
  | edge :: rest => do
    let outgoing := edge.source == id
    let entity ← GraphTask.entity? (if outgoing then edge.target else edge.source)
    let others ← seenFrom id rest
    return ⟨edge, entity, if outgoing then "out" else "in"⟩ :: others

/-- The edges of an entity with the linker's tag. -/
def semanticLinks (linker : Linker) (id : String) (direction : Direction := .both)
    (least : Option Number := none) : GraphTask (List SemanticLink) := do
  seenFrom id (← GraphTask.edgesOf id direction [linker.tag] least)

/-- Deletes the unwanted ones of the given edges, and counts those that were there. -/
def deleteWhere (unwanted : Relationship → Bool) : List Relationship → GraphTask Nat
  | [] => return 0
  | edge :: rest => do
    let deleted ← if unwanted edge then GraphTask.delete edge.id else pure false
    return deleted.toNat + (← deleteWhere unwanted rest)

/-- Replaces the outgoing edges of an entity that were found by similarity. Nothing is deleted before
the search has been answered. Counts the new edges. -/
def updateLinks (linker : Linker) (id : String) (threshold : Number := .float 0.75) (maxLinks : Int := 5) :
    GraphTask Nat := do
  let some entity ← GraphTask.entity? id | return 0
  match ← Task.attempt (candidates entity (maxLinks + 1) threshold) with
  | .error _ => return 0
  | .ok found =>
    let existing ← GraphTask.edgesOf id .out [linker.tag]
    let _ ← deleteWhere Relationship.isSemantic existing
    linker.linkEntity id threshold maxLinks none false (some found)

/-- Suggestions from matches, at most so many. Entities already joined from this one, and those that
are not stored, are passed over. -/
def suggest (entity : Entity) : (allowance : Int) → List SimilarityMatch →
    GraphTask (List LinkSuggestion)
  | _, [] => return []
  | allowance, m :: rest =>
    if allowance ≤ 0 then return []
    else do
      if ← GraphTask.hasEdge entity.id m.entity none then
        suggest entity allowance rest
      else
        match ← GraphTask.entity? m.entity with
        | none => suggest entity allowance rest
        | some other =>
          match Similarity.reason entity.kind other.kind m.score with
          | .error fault => throw (.number fault)
          | .ok reason =>
            let similarity ← similarity "LinkSuggestion" m.score
            return ⟨other, similarity, reason⟩ :: (← suggest entity (allowance - 1) rest)

/-- Similar entities that an entity is not joined to yet. -/
def suggestions (id : String) (limit : Int := 5) (threshold : Number := .float 0.7) :
    GraphTask (List LinkSuggestion) := do
  let some entity ← GraphTask.entity? id | return []
  match ← Task.attempt (candidates entity (limit * 2) threshold) with
  | .ok found => suggest entity limit found
  | .error _ => return []

/-- Links the listed entities one after another, adding to totals, and reports each of them as one more
of a total number. -/
def batchLinkFrom (linker : Linker) (threshold : Number) (maxLinks : Int) (total : Nat) :
    List String → BatchLinking → GraphTask BatchLinking
  | [], linking => return linking
  | id :: rest, linking => do
    match ← Task.attempt (linker.linkEntity id threshold maxLinks) with
    | .ok created =>
      batchLinkFrom linker threshold maxLinks total rest
        (BatchLinking.report total { linking with created := linking.created + created })
    | .error failure =>
      let warning := s!"Linking failed for {id}: {failure.message}"
      batchLinkFrom linker threshold maxLinks total rest
        (BatchLinking.report total { linking with warnings := linking.warnings ++ [warning] })

/-- Links the listed entities one after another. A failure is reported as a warning. -/
def batchLink (linker : Linker) (ids : List String) (threshold : Number := .float 0.75)
    (maxLinks : Int := 5) : GraphTask BatchLinking :=
  batchLinkFrom linker threshold maxLinks ids.length ids {}

/-- Whether an edge was found by similarity and weighs less than a bound. -/
def isLight (least : Number) (edge : Relationship) : Bool :=
  edge.weight < least.nearest && edge.isSemantic

/-- Deletes edges found by similarity that weigh less than a bound, and counts them. No weight is
compared with a bound that is missing. -/
def pruneWeakLinks (linker : Linker) (least : Option Number := some (.float 0.6)) : GraphTask Nat := do
  let weak ← GraphTask.edgesTagged linker.tag least
  match least with
  | some least => deleteWhere (isLight least) weak
  | none => if weak.isEmpty then return 0 else throw .badArguments

end Linker

end CodeGraph
