import CodeGraph.Proofs.Graph.Moments
import CodeGraph.Proofs.Structure.Placeholder
import CodeGraph.Structure.Writer

namespace CodeGraph.Structure

open GraphStore (refreshed)

/-- An entity of which nothing is known but its name and place. -/
structure IsPlaceholder (e : Entity) : Prop where
  content : e.content = none
  summary : e.summary = none
  startLine : e.startLine = none
  endLine : e.endLine = none
  metadata : e.metadata = [("placeholder", .bool true)]

/-- A name that has not been met and is not stored. -/
structure Unmet (store : GraphStore) (resolved : Resolved) (name : String) : Prop where
  unmet : resolved.lookup name = none
  unstored : store.entityNamed? name = none

/-- All that resolving a name can come to. Calls of the store fail only if it is faulty. -/
inductive Resolves (span : Span) (now : DateTime) (store : GraphStore) (name : String)
    (tag filePath : Option String) (resolved : Resolved) :
    Except StoreFailure (String × Resolved) → GraphStore → Prop
  | met {id : String} : resolved.lookup name = some id →
      Resolves span now store name tag filePath resolved (.ok (id, resolved)) store
  | found {e : Entity} : resolved.lookup name = none → store.entityNamed? name = some e →
      Resolves span now store name tag filePath resolved (.ok (e.id, (name, e.id) :: resolved)) store
  | renewed {time : DateTime} {old new : Entity} : time ∈ span.times → Unmet store resolved name →
      Placeholder.entity now name tag filePath = .ok new →
      store.entityNamed? new.qualifiedName = some old →
      Resolves span now store name tag filePath resolved (.ok (old.id, (name, old.id) :: resolved))
        { store with entities := store.entities.map (refreshed time old new) }
  | placed {time : DateTime} {new : Entity} : time ∈ span.times → Unmet store resolved name →
      Placeholder.entity now name tag filePath = .ok new →
      store.entityNamed? new.qualifiedName = none → store.entity? new.id = none →
      Resolves span now store name tag filePath resolved (.ok (new.id, (name, new.id) :: resolved))
        { store with entities := store.entities ++ [{ new with updatedAt := time }] }
  | taken {new : Entity} : Unmet store resolved name →
      Placeholder.entity now name tag filePath = .ok new →
      store.entityNamed? new.qualifiedName = none →
      Resolves span now store name tag filePath resolved (.error .idTaken) store
  | invalid {reason : Invalid} : Unmet store resolved name →
      Placeholder.entity now name tag filePath = .error reason →
      Resolves span now store name tag filePath resolved (.error (.invalid reason)) store
  | fault (failure : StoreFailure) : span.faulty →
      Resolves span now store name tag filePath resolved (.error failure) store

/-- All that connecting two entities can come to. -/
inductive Connects (span : Span) (store : GraphStore) (source target : String)
    (relationship : ExtractedRelationship) : Except StoreFailure Bool → GraphStore → Prop
  | present : store.hasEdge source target (some relationship.type.name) = true →
      Connects span store source target relationship (.ok false) store
  | created {time : DateTime} : time ∈ span.times →
      store.hasEdge source target (some relationship.type.name) = false →
      Connects span store source target relationship (.ok true) { store with
      edges := store.edges ++ [store.nextEdge time source target relationship.type.name relationship.weight
        relationship.metadata]
      issued := store.issued + 1 }
  | failed (failure : StoreFailure) : store.hasEdge source target (some relationship.type.name) = false →
      Connects span store source target relationship (.error failure) store
  | fault (failure : StoreFailure) : span.faulty →
      Connects span store source target relationship (.error failure) store

/-- The entities that the ends of a relationship stand for have been found, one after the other. -/
inductive Ends (span : Span) (now : DateTime) (filePath : Option String)
    (relationship : ExtractedRelationship) (store : GraphStore) (resolved : Resolved) :
    String → String → Resolved → GraphStore → Prop
  | both {source target : String} {half both : Resolved} {middle after : GraphStore} :
      Resolves span now store relationship.source (some relationship.sourceType) filePath resolved
        (.ok (source, half)) middle →
      Resolves span now middle relationship.target relationship.targetType none half
        (.ok (target, both)) after →
      Ends span now filePath relationship store resolved source target both after

/-- The warning that a relationship could not be stored. -/
def warning (relationship : ExtractedRelationship) (failure : StoreFailure) : String :=
  let ends := s!"{relationship.source} -> {relationship.target}"
  s!"Failed to store {relationship.type.name} {ends}: {failure.message}"

/-- All that writing one relationship can come to. -/
inductive Writes (span : Span) (now : DateTime) (filePath : Option String)
    (relationship : ExtractedRelationship) (progress : Progress) (store : GraphStore) :
    Progress → GraphStore → Prop
  | sourceFailed {failure : StoreFailure} {after : GraphStore} :
      Resolves span now store relationship.source (some relationship.sourceType) filePath
        progress.resolved (.error failure) after →
      Writes span now filePath relationship progress store
        { progress with warnings := progress.warnings ++ [warning relationship failure] } after
  | targetFailed {source : String} {resolved : Resolved} {failure : StoreFailure}
      {middle after : GraphStore} :
      Resolves span now store relationship.source (some relationship.sourceType) filePath
        progress.resolved (.ok (source, resolved)) middle →
      Resolves span now middle relationship.target relationship.targetType none resolved
        (.error failure) after →
      Writes span now filePath relationship progress store
        { progress with resolved, warnings := progress.warnings ++ [warning relationship failure] } after
  | edgeFailed {source target : String} {resolved : Resolved} {failure : StoreFailure}
      {middle after : GraphStore} :
      Ends span now filePath relationship store progress.resolved source target resolved middle →
      Connects span middle source target relationship (.error failure) after →
      Writes span now filePath relationship progress store
        { progress with resolved, warnings := progress.warnings ++ [warning relationship failure] } after
  | connected {source target : String} {resolved : Resolved} {created : Bool}
      {middle after : GraphStore} :
      Ends span now filePath relationship store progress.resolved source target resolved middle →
      Connects span middle source target relationship (.ok created) after →
      Writes span now filePath relationship progress store
        { progress with resolved, created := progress.created + created.toNat } after

variable {span : Span} {now : DateTime} {moments : ℕ → Moment} {store after : GraphStore}
  {name source target : String} {tag filePath : Option String} {resolved next : Resolved}
  {relationship : ExtractedRelationship} {progress : Progress}

theorem isPlaceholder_of_ok {new : Entity} (made : Placeholder.entity now name tag filePath = .ok new) :
    IsPlaceholder new := by
  rw [Placeholder.entity_eq_of_ok made]
  exact ⟨rfl, rfl, rfl, rfl, rfl⟩

/-- Nothing keeps an entity without lines from being stored but another one with its id. -/
theorem upsert_placeholder {new : Entity} (placeholder : IsPlaceholder new) :
    store.upsert now new =
      match store.entityNamed? new.qualifiedName with
      | some found => .ok (GraphStore.refresh now found new,
          { store with entities := store.entities.map (refreshed now found new) })
      | none =>
        if (store.entity? new.id).isSome then .error .idTaken
        else .ok ({ new with updatedAt := now },
          { store with entities := store.entities ++ [{ new with updatedAt := now }] }) := by
  unfold GraphStore.upsert
  rw [placeholder.startLine, placeholder.endLine]
  rfl

/-- A placeholder is stored, or it is not, and this is what the name has come to. -/
theorem upsert_resolves (similar : Similarity) {new : Entity} (covers : span.Covers moments)
    (unmet : Unmet store resolved name) (made : Placeholder.entity now name tag filePath = .ok new) :
    ∃ reply after, (GraphTask.upsert new).runAmid moments similar store = (reply, after) ∧
      Resolves span now store name tag filePath resolved
        (reply.map fun e => (e.id, (name, e.id) :: resolved)) after := by
  rcases GraphTask.runAmid_call_cases covers (.upsert new) with
    ⟨time, within, served⟩ | ⟨faulty, failure, failed⟩
  · have run : store.upsert time new = _ := upsert_placeholder (isPlaceholder_of_ok made)
    cases named : store.entityNamed? new.qualifiedName with
    | some old =>
      rw [named] at run
      exact ⟨_, _, served.trans (TableWork.transact_of_ok run),
        (Resolves.renewed within unmet made named :)⟩
    | none =>
      rw [named] at run
      cases taken : store.entity? new.id with
      | some other =>
        rw [taken] at run
        exact ⟨_, _, served.trans (TableWork.transact_of_error run), .taken unmet made named⟩
      | none =>
        rw [taken] at run
        exact ⟨_, _, served.trans (TableWork.transact_of_ok run),
          (Resolves.placed within unmet made named taken :)⟩
  · exact ⟨_, _, failed, .fault failure faulty⟩

theorem resolves (now : DateTime) (similar : Similarity) (store : GraphStore) (name : String)
    (tag filePath : Option String) (resolved : Resolved) (covers : span.Covers moments) :
    ∃ reply after,
      (resolve now name tag filePath resolved).runAmid moments similar store = (reply, after) ∧
      Resolves span now store name tag filePath resolved reply after := by
  unfold resolve
  cases known : resolved.lookup name with
  | some id => exact ⟨_, _, rfl, .met known⟩
  | none =>
    dsimp only
    rw [GraphTask.runAmid_bind]
    rcases GraphTask.runAmid_entityNamed?_cases covers name with asked | ⟨faulty, failure, asked⟩
    · rw [asked]
      dsimp only
      cases stored : store.entityNamed? name with
      | some e => exact ⟨_, _, rfl, .found known stored⟩
      | none =>
        have unmet : Unmet store resolved name := ⟨known, stored⟩
        cases made : Placeholder.entity now name tag filePath with
        | error reason => exact ⟨_, _, rfl, .invalid unmet made⟩
        | ok new =>
          dsimp only
          obtain ⟨reply, after, run, resolves⟩ := upsert_resolves similar
            (GraphTask.left_covers covers (GraphTask.entityNamed? name)) unmet made
          rw [GraphTask.runAmid_bind, run]
          cases reply with
          | error failure => exact ⟨_, _, rfl, resolves⟩
          | ok entity => exact ⟨_, _, rfl, resolves⟩
    · rw [asked]
      exact ⟨_, _, rfl, .fault failure faulty⟩

theorem create_connects (similar : Similarity) (relationship : ExtractedRelationship)
    (covers : span.Covers moments)
    (missing : store.hasEdge source target (some relationship.type.name) = false) :
    ∃ reply after, (GraphTask.create source target relationship.type.name relationship.weight
        relationship.metadata).runAmid moments similar store = (reply, after) ∧
      Connects span store source target relationship (reply.map Option.isSome) after := by
  let request : GraphRequest :=
    .create source target relationship.type.name relationship.weight relationship.metadata
  rcases GraphTask.runAmid_call_cases covers request with
    ⟨time, within, served⟩ | ⟨faulty, failure, failed⟩
  · rcases GraphStore.create_answers time similar store source target relationship.type.name
      relationship.weight relationship.metadata with ⟨failure, failed⟩ | bounds
    · exact ⟨_, _, served.trans failed, .failed failure missing⟩
    · have created := GraphStore.respond_create time similar source target relationship.type.name
        relationship.weight relationship.metadata store bounds
      rw [missing] at created
      exact ⟨_, _, served.trans created, .created within missing⟩
  · exact ⟨_, _, failed, .fault failure faulty⟩

theorem connects (similar : Similarity) (store : GraphStore) (source target : String)
    (relationship : ExtractedRelationship) (covers : span.Covers moments) :
    ∃ reply after, (connect source target relationship).runAmid moments similar store = (reply, after) ∧
      Connects span store source target relationship reply after := by
  unfold connect
  rw [GraphTask.runAmid_bind]
  rcases GraphTask.runAmid_hasEdge_cases covers source target (some relationship.type.name) with
    asked | ⟨faulty, failure, asked⟩
  · rw [asked]
    dsimp only
    cases present : store.hasEdge source target (some relationship.type.name) with
    | true => exact ⟨_, _, rfl, .present present⟩
    | false =>
      obtain ⟨reply, after, run, connects⟩ := create_connects similar relationship (GraphTask.left_covers covers
        (GraphTask.hasEdge source target (some relationship.type.name))) present
      rw [if_neg Bool.false_ne_true, GraphTask.runAmid_bind, run]
      cases reply with
      | error failure => exact ⟨_, _, rfl, connects⟩
      | ok edge => exact ⟨_, _, rfl, connects⟩
  · rw [asked]
    exact ⟨_, _, rfl, .fault failure faulty⟩

theorem writes (now : DateTime) (similar : Similarity) (filePath : Option String)
    (relationship : ExtractedRelationship) (progress : Progress) (store : GraphStore)
    (covers : span.Covers moments) :
    ∃ next after,
      (writeOne now filePath relationship progress).runAmid moments similar store = (.ok next, after) ∧
      Writes span now filePath relationship progress store next after := by
  unfold writeOne
  simp only [GraphTask.runAmid_bind, GraphTask.runAmid_attempt]
  obtain ⟨reply, middle, run, first⟩ := resolves now similar store relationship.source
    (some relationship.sourceType) filePath progress.resolved covers
  rw [run]
  rcases reply with failure | ⟨source, resolved⟩
  · exact ⟨_, _, rfl, .sourceFailed first⟩
  · simp only [GraphTask.runAmid_bind, GraphTask.runAmid_attempt]
    obtain ⟨reply, last, run, second⟩ := resolves now similar middle relationship.target
      relationship.targetType none resolved (GraphTask.left_covers covers _)
    rw [run]
    rcases reply with failure | ⟨target, both⟩
    · exact ⟨_, _, rfl, .targetFailed first second⟩
    · simp only [GraphTask.runAmid_bind, GraphTask.runAmid_attempt]
      obtain ⟨reply, after, run, third⟩ := connects similar last source target relationship
        (GraphTask.left_covers (GraphTask.left_covers covers _) _)
      rw [run]
      rcases reply with failure | created
      · exact ⟨_, _, rfl, .edgeFailed (.both first second) third⟩
      · exact ⟨_, _, rfl, .connected (.both first second) third⟩

/-- What is reported of relationships that have been written. -/
theorem write_outcome {relationships : List ExtractedRelationship} {similar : Similarity}
    (run : (writeAll now filePath relationships {}).runAmid moments similar store = (.ok progress, after)) :
    ∃ outcome, (write now relationships filePath).runAmid moments similar store = (.ok outcome, after) ∧
      outcome.data = some progress.created ∧ outcome.warnings = progress.warnings ∧
      outcome.failed = outcome.warnings.length ∧ (outcome.status = .partial_ ↔ 0 < outcome.failed) := by
  unfold write
  rw [GraphTask.runAmid_bind, run]
  dsimp only
  split
  · rename_i clean
    exact ⟨_, rfl, rfl, (List.length_eq_zero_iff.mp clean).symm, rfl, by simp [Outcome.success]⟩
  · rename_i failed
    have positive : (0 : Int) < progress.warnings.length := by omega
    exact ⟨_, rfl, rfl, rfl, rfl, fun _ => positive, fun _ => rfl⟩

theorem Resolves.edges {reply : Except StoreFailure (String × Resolved)}
    (resolves : Resolves span now store name tag filePath resolved reply after) :
    after.edges = store.edges := by
  cases resolves <;> rfl

/-- Where a name is not resolved nothing changes. -/
theorem Resolves.eq_of_error {failure : StoreFailure}
    (resolves : Resolves span now store name tag filePath resolved (.error failure) after) :
    after = store := by
  cases resolves <;> rfl

theorem Connects.entities {reply : Except StoreFailure Bool}
    (connects : Connects span store source target relationship reply after) :
    after.entities = store.entities := by
  cases connects <;> rfl

/-- The names that have been met after one was resolved. -/
def meeting (name : String) (met : List String) : List String :=
  if name ∈ met then met else name :: met

theorem mem_meeting {met : List String} {n : String} : n ∈ meeting name met ↔ n = name ∨ n ∈ met := by
  unfold meeting
  split
  · rename_i member
    exact ⟨.inr, fun found => found.elim (· ▸ member) id⟩
  · exact List.mem_cons

theorem lookup_none_iff : resolved.lookup name = none ↔ name ∉ resolved.map (·.1) := by
  rw [List.lookup_eq_none_iff, List.mem_map]
  constructor
  · rintro other ⟨entry, member, rfl⟩
    simpa using other entry member
  · intro unmet entry member
    exact bne_iff_ne.mpr fun same => unmet ⟨entry, member, same.symm⟩

theorem Resolves.names {id : String}
    (resolves : Resolves span now store name tag filePath resolved (.ok (id, next)) after) :
    next.map (·.1) = meeting name (resolved.map (·.1)) := by
  unfold meeting
  cases resolves with
  | met known =>
    have member : name ∈ resolved.map (·.1) := by
      by_contra unknown
      simp [lookup_none_iff.mpr unknown] at known
    rw [if_pos member]
  | found unknown => rw [if_neg (lookup_none_iff.mp unknown), List.map_cons]
  | renewed _ unknown => rw [if_neg (lookup_none_iff.mp unknown.unmet), List.map_cons]
  | placed _ unknown => rw [if_neg (lookup_none_iff.mp unknown.unmet), List.map_cons]

/-- The names that relationships give for their ends. -/
def endNames (relationships : List ExtractedRelationship) : List String :=
  relationships.flatMap fun r => [r.source, r.target]

theorem endNames_cons (rest : List ExtractedRelationship) :
    endNames (relationship :: rest) = endNames [relationship] ++ endNames rest :=
  rfl

theorem mem_endNames_singleton {n : String} :
    n ∈ endNames [relationship] ↔ n = relationship.source ∨ n = relationship.target :=
  List.mem_pair

end CodeGraph.Structure
