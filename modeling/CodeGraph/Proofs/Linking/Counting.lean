import CodeGraph.Linking.Linker
import CodeGraph.Proofs.Graph.Interleaved
import CodeGraph.Proofs.Linking.Frame
import CodeGraph.Structure.Writer
import Mathlib.Algebra.BigOperators.Ring.Finset

namespace CodeGraph

open GraphTask (Counts Ends never)

variable {count : ℕ}

namespace Linker

theorem link_counts (source target tag : String) (score : Number) :
    Counts (fun n created => n = count + created.toNat) never count (link source target tag score) := by
  refine (GraphTask.hasEdge_counts source target (some tag)).next ?_
  rintro n present rfl
  split
  · exact rfl
  · refine (GraphTask.create_counts source target tag _ _).next ?_
    rintro m edge rfl
    exact rfl

theorem linkAll_counts (source tag : String) (found : List SimilarityMatch) :
    Counts (fun n created => n = count + created) never count (linkAll source tag found) := by
  induction found generalizing count with
  | nil => exact rfl
  | cons m rest ih =>
    refine (link_counts source m.entity tag m.score).next ?_
    rintro n created rfl
    refine ih.next ?_
    rintro n more rfl
    exact Nat.add_assoc ..

theorem linkMatches_counts (source tag : String) (bidirectional : Bool) (allowance : Int)
    (found : List SimilarityMatch) : Counts (fun n created => n = count + created) never count
      (linkMatches source tag bidirectional allowance found) := by
  induction found generalizing count allowance with
  | nil => exact rfl
  | cons m rest ih =>
    unfold linkMatches
    split
    · exact rfl
    · refine (link_counts source m.entity tag m.score).next ?_
      rintro n out rfl
      refine Counts.next_ite (fun _ => link_counts m.entity source tag m.score)
        (fun _ => .pure rfl) ?_
      rintro n back rfl
      refine (ih _).next ?_
      rintro n more rfl
      change _ = _
      omega

theorem candidates_counts (entity : Entity) (limit : Int) (threshold : Number)
    (kinds : Option (List String)) :
    Counts (fun n _ => n = count) (· = count) count (candidates entity limit threshold kinds) := by
  refine (GraphTask.search_counts _).bind (fun _ => id) ?_
  rintro n found rfl
  exact rfl

/-- A failure comes before any edge is made. -/
theorem linkEntity_counts (linker : Linker) (id : String) (threshold : Number) (maxLinks : Int)
    (tag : Option String) (bidirectional : Bool) : Counts (fun n created => n = count + created)
      (· = count) count (linker.linkEntity id threshold maxLinks tag bidirectional) := by
  refine (GraphTask.entity?_counts id).next ?_
  rintro n reply rfl
  cases reply with
  | none => exact rfl
  | some entity =>
    refine (candidates_counts entity _ threshold none).bind (fun _ same => same) ?_
    rintro n found rfl
    exact (linkMatches_counts id _ bidirectional maxLinks found).weaken (fun _ _ same => same) never.elim

theorem linkNewEntity_counts (linker : Linker) (id : String) (threshold : Number) (maxLinks : Int)
    (tag : Option String) (bidirectional : Bool) : Counts (fun n created => n = count + created)
      never count (linker.linkNewEntity id threshold maxLinks tag bidirectional) := by
  refine (linkEntity_counts linker id threshold maxLinks tag bidirectional).attempt.next ?_
  rintro n (failure | created) holds
  · exact holds
  · exact holds

theorem batchLinkFrom_counts (linker : Linker) (threshold : Number) (maxLinks : Int) {total : ℕ}
    (ids : List String) (linking : BatchLinking) (start : linking.created = count) :
    Counts (fun n last => last.created = (n : ℤ)) never count
      (batchLinkFrom linker threshold maxLinks total ids linking) := by
  induction ids generalizing count linking with
  | nil => exact start
  | cons id rest ih =>
    refine (linkEntity_counts linker id threshold maxLinks none false).attempt.next ?_
    rintro n (failure | created) (rfl : n = _)
    · exact ih _ start
    · exact ih _ (by simp [BatchLinking.report, start])

theorem discoverFrom_counts {tag : String} {skipExisting : Bool} {limit : Int} {threshold : Number}
    {kinds : Option (List String)} (entities : List Entity) {result : DiscoveryResult}
    (start : result.created = count) : Counts (fun n last => last.created = (n : ℤ)) never count
      (discoverFrom tag skipExisting (fun e => candidates e limit threshold kinds) entities result) := by
  induction entities generalizing count result with
  | nil => exact start
  | cons entity rest ih =>
    refine Counts.next_ite (fun _ => GraphTask.edgesOf_counts entity.id .out [tag] none (some 1))
      (fun _ => .pure rfl) ?_
    rintro n existing rfl
    dsimp only
    split
    · exact ih start
    · refine (candidates_counts entity limit threshold kinds).attempt.next ?_
      rintro n (failure | found) (rfl : n = _)
      · exact ih start
      · refine (linkAll_counts entity.id tag found).next ?_
        rintro m created rfl
        exact ih (by simp [start])

theorem discover_counts (linker : Linker) (threshold : Number) (perEntity : Int) (kinds : List String)
    (tag : Option String) (skipExisting : Bool) : Counts (fun n last => last.created = (n : ℤ)) never 0
      (linker.discover threshold perEntity kinds tag skipExisting) := by
  refine (GraphTask.entitiesOfKinds_counts kinds).next ?_
  rintro n entities rfl
  exact discoverFrom_counts entities rfl

end Linker

namespace Structure

variable {now : DateTime}

theorem resolve_counts (name : String) (tag filePath : Option String) (resolved : Resolved) :
    Counts (fun n _ => n = count) (· = count) count (resolve now name tag filePath resolved) := by
  unfold resolve
  cases resolved.lookup name with
  | some id => exact rfl
  | none =>
    refine (GraphTask.entityNamed?_counts name).next ?_
    rintro n found rfl
    cases found with
    | some entity => exact rfl
    | none =>
      cases Placeholder.entity now name tag filePath with
      | error invalid => exact rfl
      | ok entity =>
        refine (GraphTask.upsert_counts entity).next ?_
        rintro n stored rfl
        exact rfl

theorem connect_counts (source target : String) (relationship : ExtractedRelationship) :
    Counts (fun n created => n = count + created.toNat) never count
      (connect source target relationship) := by
  refine (GraphTask.hasEdge_counts source target _).next ?_
  rintro n present rfl
  split
  · exact rfl
  · refine (GraphTask.create_counts source target _ _ _).next ?_
    rintro m edge rfl
    exact rfl

theorem writeOne_counts (filePath : Option String) (relationship : ExtractedRelationship)
    {progress : Progress} (start : progress.created = count) :
    Counts (fun n next => next.created = n) never count
      (writeOne now filePath relationship progress) := by
  refine (resolve_counts relationship.source _ filePath _).attempt.next ?_
  rintro n (failure | ⟨source, resolved⟩) (rfl : n = _)
  · exact start
  · refine (resolve_counts relationship.target _ none resolved).attempt.next ?_
    rintro n (failure | ⟨target, resolved⟩) (rfl : n = _)
    · exact start
    · refine (connect_counts source target relationship).attempt.next ?_
      rintro n (failure | created) holds
      · exact holds.elim
      · exact holds ▸ congrArg (· + created.toNat) start

theorem writeAll_counts (filePath : Option String) (relationships : List ExtractedRelationship)
    (progress : Progress) (start : progress.created = count) :
    Counts (fun n next => next.created = n) never count
      (writeAll now filePath relationships progress) := by
  induction relationships generalizing count progress with
  | nil => exact start
  | cons relationship rest ih =>
    refine (writeOne_counts filePath relationship start).next ?_
    exact fun n next created => ih next created

theorem write_counts (filePath : Option String) (relationships : List ExtractedRelationship) :
    Counts (fun n outcome => outcome.data = some n) never 0 (write now relationships filePath) := by
  refine (writeAll_counts filePath relationships {} rfl).next ?_
  rintro n progress rfl
  dsimp only
  split
  · exact rfl
  · exact rfl

end Structure

/-- A run that makes edges, with all arguments. -/
inductive GraphRun where
  | linkNewEntity (linker : Linker) (id : String) (threshold : Number) (maxLinks : Int)
      (tag : Option String) (bidirectional : Bool)
  | discover (linker : Linker) (threshold : Number) (perEntity : Int) (kinds : List String)
      (tag : Option String) (skipExisting : Bool)
  | batchLink (linker : Linker) (ids : List String) (threshold : Number) (maxLinks : Int)
  | write (now : DateTime) (relationships : List ExtractedRelationship) (filePath : Option String)

namespace GraphRun

/-- The number of edges that a run reports to have created. -/
def created : GraphRun → GraphTask ℤ
  | .linkNewEntity linker id threshold maxLinks tag bidirectional => do
    return (← linker.linkNewEntity id threshold maxLinks tag bidirectional : ℕ)
  | .discover linker threshold perEntity kinds tag skipExisting => do
    return (← linker.discover threshold perEntity kinds tag skipExisting).created
  | .batchLink linker ids threshold maxLinks => do
    return (← linker.batchLink ids threshold maxLinks).created
  | .write now relationships filePath => do
    return ((← Structure.write now relationships filePath).data.getD 0 : ℕ)

theorem created_counts (run : GraphRun) :
    Counts (fun n total => total = (n : ℤ)) never 0 run.created := by
  cases run with
  | linkNewEntity linker id threshold maxLinks tag bidirectional =>
    refine (linker.linkNewEntity_counts id threshold maxLinks tag bidirectional).next ?_
    rintro n total rfl
    exact congrArg Nat.cast (Nat.zero_add total).symm
  | discover linker threshold perEntity kinds tag skipExisting =>
    exact (linker.discover_counts threshold perEntity kinds tag skipExisting).next
      fun n result total => total
  | batchLink linker ids threshold maxLinks =>
    exact (linker.batchLinkFrom_counts threshold maxLinks ids {} rfl).next
      fun n result total => total
  | write now relationships filePath =>
    refine (Structure.write_counts filePath relationships).next fun n outcome total => ?_
    exact congrArg (fun data : Option ℕ => ((data.getD 0 : ℕ) : ℤ)) total

/-- Runs start together on a stored graph. -/
def together (store : GraphStore) (runs : List GraphRun) : Shared (Except StoreFailure ℤ) :=
  ⟨store, runs.map fun run => run.created.run, []⟩

/-- Whatever runs do at the same time, no two edges have the same ends and tag, and an edge that one of
them asked for is there. When all are done, none of them has failed, and the numbers that they report add
up to the number of edges that have been added. -/
theorem together_totals {first : GraphStore} {runs : List GraphRun}
    {last : Shared (Except StoreFailure ℤ)} (sound : first.Sound)
    (reaches : (together first runs).Reaches last) :
    (last.store.edges.map fun e => (e.source, e.target, e.tag)).Nodup ∧
      (∀ source target tag weight metadata,
        .create source target tag weight metadata ∈ last.requests →
          ∃ e ∈ last.store.edges, e.source = source ∧ e.target = target ∧ e.tag = tag) ∧
      ∃ added, last.store.edges = first.edges ++ added ∧
        ∀ results, last.programs = results.map .done →
          ∃ totals : List ℤ, results = totals.map .ok ∧ totals.sum = added.length := by
  have fresh : ∀ program ∈ runs.map (fun run => run.created.run),
      Program.Counts (Ends (fun n total => total = (n : ℤ)) never) 0 program := by
    intro program member
    obtain ⟨run, _, rfl⟩ := List.mem_map.mp member
    exact run.created_counts
  obtain ⟨counts, tallied⟩ := Shared.Reaches.tallied reaches sound fresh
  obtain ⟨added, edges, total⟩ := tallied.added
  refine ⟨tallied.sound.joints, tallied.joined, added, edges, fun results done => ?_⟩
  have reported := tallied.programs
  rw [done, List.forall₂_map_right_iff] at reported
  refine ⟨counts.map Nat.cast, ?_, ?_⟩
  · rw [← List.forall₂_eq_eq_eq, List.map_map, List.forall₂_map_right_iff]
    refine reported.flip.imp fun result count ends => ?_
    cases result with
    | ok total => exact congrArg Except.ok ends
    | error failure => exact False.elim ends
  · rw [← total]
    exact (Nat.cast_list_sum counts).symm

/-- Two runs that find the same entity, and one that writes what was extracted. -/
def racingRuns : List GraphRun :=
  let link : GraphRun := .linkNewEntity {} "a" (.float 0.5) 3 none false
  [link, link, .write default [{ source := "a", sourceType := "class", target := "b", type := .calls }]
    none]

def racingStore : GraphStore :=
  let requests : List GraphRequest := [.upsert (Linker.sampleEntity "a")]
  GraphStore.serve (requests.map fun request => ⟨default, fun _ => .ok [], request⟩) .empty

/-- All three look for their edge before one of them makes it. -/
def racedRuns : Shared (Except StoreFailure ℤ) :=
  let similar : Similarity := fun _ => .ok [⟨"b", .float 0.75, none⟩]
  [0, 1, 2, 0, 1, 2, 0, 1, 2, 0, 1, 2, 2].foldl (Shared.serve default similar)
    (together racingStore racingRuns)

theorem racedRuns_programs : racedRuns.programs = [.ok 1, .ok 0, .ok 1].map .done := by
  refine Program.map_result? ?_
  decide +kernel

/-- Three edges are asked for, and one of them is there already. -/
theorem together_totals_racedRuns :
    racingStore.Sound ∧ (together racingStore racingRuns).Reaches racedRuns ∧
      racedRuns.programs = [.ok 1, .ok 0, .ok 1].map .done ∧
      (racedRuns.requests.countP fun request => request matches .create ..) = 3 ∧
      (racedRuns.store.edges.map fun e => (e.source, e.target, e.tag)).Nodup ∧
      racedRuns.store.edges.length = 2 := by
  have sound : racingStore.Sound := GraphStore.Sound.empty.serve _
  have reaches : (together racingStore racingRuns).Reaches racedRuns := Shared.reaches_foldl _ _ _ _
  obtain ⟨joints, _, added, edges, reported⟩ := together_totals sound reaches
  obtain ⟨totals, results, sum⟩ := reported _ racedRuns_programs
  have numbers : [1, 0, 1] = totals := List.map_injective_iff.mpr (fun _ _ => Except.ok.inj) results
  refine ⟨sound, reaches, racedRuns_programs, by decide +kernel, joints, ?_⟩
  have count : (added.length : ℤ) = 2 := by rw [← sum, ← numbers]; rfl
  have none : racingStore.edges = [] := by decide +kernel
  rw [edges, none, List.nil_append]
  exact_mod_cast count

end GraphRun

end CodeGraph
