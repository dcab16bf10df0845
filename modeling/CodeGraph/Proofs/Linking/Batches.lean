import CodeGraph.Proofs.Linking.Clocks

namespace CodeGraph

namespace Linker

theorem create_succeeds (around : Surroundings) (source target tag : String) {weight : Float}
    (metadata : Members) (bounds : 0.0 ≤ weight ∧ weight ≤ 1.0) (served : Served) :
    ∃ edge after, (GraphTask.create source target tag weight metadata).runIn around.respond served =
      (.ok edge, after) := by
  let request : GraphRequest := .create source target tag weight metadata
  let outcome := served.store.respond (around.clock served.asked) (around.similar served.asked) request
  have created : outcome = _ := GraphStore.respond_create (around.clock served.asked)
    (around.similar served.asked) source target tag weight metadata served.store bounds
  have run : (GraphTask.create source target tag weight metadata).runIn around.respond served =
      (outcome.1, ⟨outcome.2, request :: served.asked⟩) := rfl
  rw [run, created]
  split
  · exact ⟨none, _, rfl⟩
  · exact ⟨some _, _, rfl⟩

/-- An edge that is missing can always be made, for its weight is within bounds. -/
theorem link_succeeds (around : Surroundings) (source target tag : String) (score : Number) (served : Served) :
    ∃ created after, (link source target tag score).runIn around.respond served = (.ok created, after) := by
  have looked : (GraphTask.hasEdge source target (some tag)).runIn around.respond served =
      (.ok (served.store.hasEdge source target (some tag)),
        ⟨served.store, .hasEdge source target (some tag) :: served.asked⟩) := rfl
  rw [link, Task.runIn_bind, looked]
  dsimp only
  split
  · exact ⟨false, _, rfl⟩
  · obtain ⟨edge, after, made⟩ := create_succeeds around source target tag (discovered score)
      (Similarity.weight_mem score) ⟨served.store, .hasEdge source target (some tag) :: served.asked⟩
    rw [Task.runIn_bind, made]
    exact ⟨edge.isSome, after, rfl⟩

theorem linkMatches_succeeds (around : Surroundings) (source tag : String) (bidirectional : Bool)
    (allowance : Int) (found : List SimilarityMatch) (served : Served) :
    ∃ created after, (linkMatches source tag bidirectional allowance found).runIn around.respond served =
      (.ok created, after) := by
  induction found generalizing allowance served with
  | nil => exact ⟨0, served, rfl⟩
  | cons m rest ih =>
    unfold linkMatches
    split
    · exact ⟨0, served, rfl⟩
    · obtain ⟨out, middle, outRun⟩ := link_succeeds around source m.entity tag m.score served
      have rest_succeeds (back : Bool) (served : Served) : ∃ created after, Task.runIn around.respond (do
          let more ← linkMatches source tag bidirectional (allowance - out.toInt) rest
          return out.toNat + back.toNat + more : GraphTask ℕ) served = (.ok created, after) := by
        obtain ⟨more, after, run⟩ := ih (allowance - out.toInt) served
        rw [Task.runIn_bind, run]
        exact ⟨_, after, rfl⟩
      rw [Task.runIn_bind, outRun]
      dsimp only
      split
      · obtain ⟨back, next, backRun⟩ := link_succeeds around m.entity source tag m.score middle
        rw [Task.runIn_bind, backRun]
        exact rest_succeeds back next
      · exact rest_succeeds false middle

/-- Why the search for an entity fails when its turn comes. There is none for an entity that is not stored. -/
def searchFailure? (around : Surroundings) (threshold : Number) (maxLinks : Int) (id : String)
    (served : Served) : Option StoreFailure :=
  match served.store.entity? id with
  | none => none
  | some entity =>
    match around.similar (.entity id :: served.asked)
      { text := entity.searchText, limit := maxLinks + 1, threshold } with
    | .ok _ => none
    | .error failure => some failure

/-- Linking an entity fails if and only if its search does. -/
theorem linkEntity_run (linker : Linker) (around : Surroundings) (id : String) (threshold : Number)
    (maxLinks : Int) (served : Served) :
    ∃ created after, (linker.linkEntity id threshold maxLinks).runIn around.respond served =
      ((searchFailure? around threshold maxLinks id served).elim (.ok created) .error, after) := by
  have looked : (GraphTask.entity? id).runIn around.respond served =
      (.ok (served.store.entity? id), ⟨served.store, .entity id :: served.asked⟩) := rfl
  rw [linkEntity, Task.runIn_bind, looked, searchFailure?]
  cases known : served.store.entity? id with
  | none => exact ⟨0, _, rfl⟩
  | some entity =>
    let terms : SimilaritySearch := { text := entity.searchText, limit := maxLinks + 1, threshold }
    have searched : (candidates entity (maxLinks + 1) threshold).runIn around.respond
        ⟨served.store, .entity id :: served.asked⟩ =
          ((around.similar (.entity id :: served.asked) terms).map (newMatches [entity.id]),
            ⟨served.store, .search terms :: .entity id :: served.asked⟩) := by
      let asked : List GraphRequest := .search terms :: .entity id :: served.asked
      have answered : (GraphTask.search terms).runIn around.respond ⟨served.store, .entity id :: served.asked⟩ =
          (around.similar (.entity id :: served.asked) terms, ⟨served.store, asked⟩) :=
        congrArg (fun answer => (answer.1, (⟨answer.2, asked⟩ : Served)))
          (GraphStore.respond_search _ _ terms served.store)
      rw [candidates, Task.runIn_bind, answered]
      cases around.similar (.entity id :: served.asked) terms <;> rfl
    dsimp only
    rw [Task.runIn_bind, searched]
    cases around.similar (.entity id :: served.asked) terms with
    | error failure => exact ⟨0, _, rfl⟩
    | ok found =>
      obtain ⟨created, after, run⟩ := linkMatches_succeeds around id (linker.tagOr none) false maxLinks
        (newMatches [entity.id] found) ⟨served.store, .search terms :: .entity id :: served.asked⟩
      exact ⟨created, after, run⟩

/-- What a batch says about an entity whose search fails. -/
def warning? (around : Surroundings) (threshold : Number) (maxLinks : Int) (id : String) (served : Served) :
    Option String :=
  (searchFailure? around threshold maxLinks id served).map fun failure =>
    s!"Linking failed for {id}: {failure.message}"

/-- The totals of a batch once an entity is done. -/
def BatchLinking.entityDone (total : ℕ) (created : ℕ) (warning : Option String) (linking : BatchLinking) :
    BatchLinking :=
  BatchLinking.report total
    { linking with created := linking.created + created, warnings := linking.warnings ++ warning.toList }

/-- A single call gives what the batch adds for the entity, and leads to the same state. -/
theorem batchLinkFrom_step (linker : Linker) (around : Surroundings) (threshold : Number) (maxLinks : Int)
    (total : ℕ) (id : String) (rest : List String) (linking : BatchLinking) (served : Served) :
    ∃ created after, (linker.linkNewEntity id threshold maxLinks).runIn around.respond served =
        (.ok created, after) ∧
      (batchLinkFrom linker threshold maxLinks total (id :: rest) linking).runIn around.respond served =
        (batchLinkFrom linker threshold maxLinks total rest (BatchLinking.entityDone total created
          (warning? around threshold maxLinks id served) linking)).runIn around.respond after := by
  obtain ⟨created, after, run⟩ := linkEntity_run linker around id threshold maxLinks served
  have attempted := Task.runIn_attempt around.respond (linker.linkEntity id threshold maxLinks) served
  rw [run] at attempted
  rw [linkNewEntity, batchLinkFrom, Task.runIn_bind, Task.runIn_bind, attempted, warning?]
  cases searchFailure? around threshold maxLinks id served with
  | none =>
    refine ⟨created, after, rfl, ?_⟩
    simp only [Option.elim_none, BatchLinking.entityDone, Option.map_none, Option.toList_none, List.append_nil]
  | some failure =>
    refine ⟨0, after, rfl, ?_⟩
    simp only [Option.elim_some, BatchLinking.entityDone, Option.map_some, Option.toList_some,
      Int.natCast_zero, Int.add_zero]

/-- A call for one entity, with the state that it meets and what it gives. -/
structure SingleCall where
  id : String
  met : Served
  reply : Except StoreFailure ℕ

/-- One call after another for the listed entities, and the state after them. -/
def linkEach (linker : Linker) (threshold : Number) (maxLinks : Int) (around : Surroundings) :
    List String → Served → List SingleCall × Served
  | [], served => ([], served)
  | id :: rest, served =>
    let outcome := (linker.linkNewEntity id threshold maxLinks).runIn around.respond served
    let later := linkEach linker threshold maxLinks around rest outcome.2
    (⟨id, served, outcome.1⟩ :: later.1, later.2)

/-- What a batch reports, added to the totals that it begins with, by the single calls and their counts. -/
structure Reports (around : Surroundings) (threshold : Number) (maxLinks : Int) (total : ℕ)
    (linking : BatchLinking) (calls : List SingleCall) (counts : List ℕ) (result : BatchLinking) : Prop where
  created : result.created = linking.created + counts.sum
  processed : result.processed = linking.processed + calls.length
  warnings : result.warnings = linking.warnings ++
    calls.filterMap fun call => warning? around threshold maxLinks call.id call.met
  progress : result.progress = linking.progress ++
    (List.range calls.length).map fun done : ℕ => (linking.processed + done + 1, total)

/-- In the surroundings of the single calls a batch leads to the same state. -/
theorem batchLinkFrom_run (linker : Linker) (around : Surroundings) (threshold : Number) (maxLinks : Int)
    (total : ℕ) (ids : List String) (linking : BatchLinking) (served : Served) :
    let each := linkEach linker threshold maxLinks around ids served
    ∃ result counts, (batchLinkFrom linker threshold maxLinks total ids linking).runIn around.respond served =
        (.ok result, each.2) ∧
      each.1.map (·.id) = ids ∧ each.1.map (·.reply) = counts.map .ok ∧
      Reports around threshold maxLinks total linking each.1 counts result := by
  induction ids generalizing linking served with
  | nil =>
    refine ⟨linking, [], rfl, rfl, rfl, ?_⟩
    constructor <;> simp [linkEach]
  | cons id rest ih =>
    obtain ⟨created, after, single, step⟩ :=
      batchLinkFrom_step linker around threshold maxLinks total id rest linking served
    obtain ⟨result, counts, run, ids, replies, reports⟩ := ih (BatchLinking.entityDone total created
      (warning? around threshold maxLinks id served) linking) after
    simp only [linkEach, single]
    refine ⟨result, created :: counts, step.trans run, ?_, ?_, ?_⟩
    · rw [List.map_cons, ids]
    · rw [List.map_cons, replies, List.map_cons]
    · constructor
      · have sum := reports.created
        simp only [BatchLinking.entityDone, BatchLinking.report] at sum
        rw [List.sum_cons, Int.natCast_add, sum, Int.add_assoc]
      · have processed := reports.processed
        simp only [BatchLinking.entityDone, BatchLinking.report] at processed
        rw [List.length_cons, processed]
        omega
      · have warnings := reports.warnings
        simp only [BatchLinking.entityDone, BatchLinking.report] at warnings
        rw [warnings, List.append_assoc, List.filterMap_cons]
        cases warning? around threshold maxLinks id served <;> rfl
      · have progress := reports.progress
        simp only [BatchLinking.entityDone, BatchLinking.report] at progress
        have later (done : ℕ) : linking.processed + 1 + done + 1 = linking.processed + (done + 1 : ℕ) + 1 := by
          omega
        rw [progress, List.append_assoc, List.length_cons, List.range_succ_eq_map, List.map_cons, List.map_map,
          Int.natCast_zero, Int.add_zero]
        simp only [later]
        rfl

/-- Linking a list of entities in one call comes to the same stored graph, but for the ids and times of edges,
as a call for each of them, one after another, and creates as many edges as those together. All entities count
as done, and this is reported after each. There is a warning for each whose search fails when its turn comes,
and no other. -/
theorem batchLink_eq_linkEach (linker : Linker) (ids : List String) (threshold : Number) (maxLinks : Int)
    (around : Surroundings) (clock : List GraphRequest → DateTime) (served : Served) :
    let batch := (linker.batchLink ids threshold maxLinks).runIn around.respond served
    let each := linkEach linker threshold maxLinks { around with clock } ids served
    batch.2.store.entities = each.2.store.entities ∧
      batch.2.store.edges.map bare = each.2.store.edges.map bare ∧ batch.2.asked = each.2.asked ∧
      each.1.map (·.id) = ids ∧
      ∃ result, ∃ counts : List ℕ, batch.1 = .ok result ∧ each.1.map (·.reply) = counts.map .ok ∧
        result.created = counts.sum ∧ result.processed = ids.length ∧
        result.warnings = each.1.filterMap (fun call =>
          (searchFailure? around threshold maxLinks call.id call.met).map fun failure =>
            s!"Linking failed for {call.id}: {failure.message}") ∧
        result.progress = (List.range ids.length).map fun done : ℕ => ((done : Int) + 1, ids.length) := by
  intro batch each
  obtain ⟨result, counts, run, sameIds, replies, reports⟩ :=
    batchLinkFrom_run linker { around with clock } threshold maxLinks ids.length ids {} served
  -- With the clock of the single calls the batch leads to their state; another clock is not noticed.
  have alike : served.Alike served := ⟨rfl, rfl, rfl⟩
  let alone := (linker.batchLink ids threshold maxLinks).runIn
    ({ around with clock } : Surroundings).respond served
  obtain ⟨same, after⟩ : batch.1 = alone.1 ∧ batch.2.Alike alone.2 :=
    (batchLinkFrom_blind linker threshold maxLinks ids.length ids {}).run_alike alike rfl
  have calls : each.1.length = ids.length := by rw [← sameIds, List.length_map]
  refine ⟨?_, ?_, ?_, sameIds, result, counts, ?_, replies, ?_, ?_, ?_, ?_⟩
  · exact after.entities.trans (congrArg (·.2.store.entities) run)
  · exact after.edges.trans (congrArg (·.2.store.edges.map bare) run)
  · exact after.asked.trans (congrArg (·.2.asked) run)
  · exact same.trans (congrArg Prod.fst run)
  · exact reports.created.trans (Int.zero_add _)
  · rw [reports.processed, Int.zero_add, calls]
  · exact reports.warnings
  · rw [reports.progress, calls]
    simp

end Linker

end CodeGraph
