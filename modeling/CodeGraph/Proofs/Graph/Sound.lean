import CodeGraph.Graph.Request
import CodeGraph.Proofs.Linking.Weight
import Mathlib.Data.List.Nodup

namespace CodeGraph

theorem Decimal.ofDigitChars_padded (width n : ℕ) :
    Nat.ofDigitChars 10 (Decimal.padded width n).toList 0 = n := by
  simp only [Decimal.padded, String.toList_ofList, Nat.ofDigitChars_append,
    Nat.ofDigitChars_replicate_zero, Nat.mul_zero, Nat.ofDigitChars_ten_toDigits]

theorem Decimal.padded_injective (width : ℕ) : Function.Injective (Decimal.padded width) := by
  intro m n same
  rw [← Decimal.ofDigitChars_padded width m, same, Decimal.ofDigitChars_padded]

/-- Whether a request asks for nothing to be written. -/
def GraphRequest.reads : GraphRequest → Bool
  | .upsert _ | .create _ _ _ _ _ | .delete _ => false
  | _ => true

namespace GraphStore

theorem edgeId_injective : Function.Injective edgeId := by
  intro m n same
  have padded : Decimal.padded 12 m = Decimal.padded 12 n := (String.append_right_inj _).mp same
  exact Decimal.padded_injective 12 padded

/-- A stored graph as the store keeps it. Ids that have not been given out are on no edge. -/
structure Sound (store : GraphStore) : Prop where
  entityIds : (store.entities.map (·.id)).Nodup
  names : (store.entities.map (·.qualifiedName)).Nodup
  edgeIds : (store.edges.map (·.id)).Nodup
  joints : (store.edges.map fun e => (e.source, e.target, e.tag)).Nodup
  weights : ∀ e ∈ store.edges, 0.0 ≤ e.weight ∧ e.weight ≤ 1.0
  fresh : ∀ e ∈ store.edges, ∀ n, store.issued ≤ n → e.id ≠ edgeId n

theorem Sound.empty : Sound empty := by
  constructor <;> simp [GraphStore.empty]

/-- The edge that is created next. -/
def nextEdge (store : GraphStore) (now : DateTime) (source target tag : String) (weight : Float)
    (metadata : Members) : Relationship :=
  { id := edgeId store.issued, source, target, tag, weight, metadata, createdAt := now }

/-- What becomes of an entity when one is replaced by a newer version with the same name. -/
def refreshed (now : DateTime) (old new e : Entity) : Entity :=
  if e.qualifiedName == new.qualifiedName then refresh now old new else e

/-- All that one request can change. -/
inductive Step (now : DateTime) (store : GraphStore) : GraphStore → Prop
  | same : Step now store store
  | refreshed {old new : Entity} : store.entityNamed? new.qualifiedName = some old →
      Step now store { store with entities := store.entities.map (refreshed now old new) }
  | stored {new : Entity} : store.entityNamed? new.qualifiedName = none →
      store.entity? new.id = none →
      Step now store { store with entities := store.entities ++ [{ new with updatedAt := now }] }
  | joined {source target tag : String} {weight : Float} (metadata : Members) :
      0.0 ≤ weight ∧ weight ≤ 1.0 → store.hasEdge source target (some tag) = false →
      Step now store { store with
        edges := store.edges ++ [store.nextEdge now source target tag weight metadata]
        issued := store.issued + 1 }
  | deleted (id : String) : Step now store (store.delete id).2

variable {now : DateTime} {similar : Similarity} {store next : GraphStore}

theorem upsert_step {new entity : Entity} (run : store.upsert now new = .ok (entity, next)) :
    Step now store next := by
  unfold upsert at run
  split at run
  · simp at run
  · split at run
    · rename_i old found
      cases run
      exact .refreshed found
    · rename_i unknown
      split at run
      · simp at run
      · rename_i free
        cases run
        exact .stored unknown (by simpa using free)

/-- Creating an edge fails for a weight out of bounds only, and adds the edge unless it is there. -/
theorem create_eq (now : DateTime) (source target tag : String) (weight : Float) (metadata : Members)
    (store : GraphStore) (bounds : 0.0 ≤ weight ∧ weight ≤ 1.0) :
    store.create now source target tag weight metadata =
      if store.hasEdge source target (some tag) then .ok (none, store)
      else
        let edge := store.nextEdge now source target tag weight metadata
        .ok (some edge, { store with edges := store.edges ++ [edge], issued := store.issued + 1 }) := by
  have unit : Reader.unit weight = .ok weight := Reader.unit_eq_ok_iff.mpr ⟨rfl, bounds⟩
  simp only [create, unit, nextEdge]

theorem create_bounds {source target tag : String} {weight : Float} {metadata : Members}
    {reply : Option Relationship}
    (run : store.create now source target tag weight metadata = .ok (reply, next)) :
    0.0 ≤ weight ∧ weight ≤ 1.0 := by
  unfold create at run
  cases checked : Reader.unit weight with
  | error issues => simp [checked] at run
  | ok same => exact (Reader.unit_eq_ok_iff.mp checked).2

/-- A request to store an entity fails, or leaves what storing it leaves. -/
theorem upsert_answers (now : DateTime) (similar : Similarity) (store : GraphStore) (new : Entity) :
    (∃ failure, store.respond now similar (.upsert new) = (.error failure, store)) ∨
      ∃ entity next, store.upsert now new = .ok (entity, next) ∧
        store.respond now similar (.upsert new) = (.ok entity, next) := by
  cases run : store.upsert now new with
  | error failure => exact .inl ⟨failure, TableWork.transact_of_error run⟩
  | ok done => exact .inr ⟨done.1, done.2, rfl, TableWork.transact_of_ok run⟩

/-- A request for an edge fails, or its weight is within bounds. -/
theorem create_answers (now : DateTime) (similar : Similarity) (store : GraphStore)
    (source target tag : String) (weight : Float) (metadata : Members) :
    (∃ failure, store.respond now similar (.create source target tag weight metadata) =
      (.error failure, store)) ∨ 0.0 ≤ weight ∧ weight ≤ 1.0 := by
  cases run : store.create now source target tag weight metadata with
  | error failure => exact .inl ⟨failure, TableWork.transact_of_error run⟩
  | ok done => exact .inr (create_bounds run)

theorem create_step {source target tag : String} {weight : Float} {metadata : Members}
    {reply : Option Relationship}
    (run : store.create now source target tag weight metadata = .ok (reply, next)) :
    Step now store next := by
  have bounds := create_bounds run
  rw [create_eq now source target tag weight metadata store bounds] at run
  split at run
  · cases run
    exact .same
  · rename_i missing
    cases run
    exact .joined metadata bounds (by simpa using missing)

theorem statement_step {α : Type} {write : GraphStore → Except StoreFailure (α × GraphStore)}
    (step : ∀ a next, write store = .ok (a, next) → Step now store next) :
    Step now store ((TableWork.statement write).transact store).2 := by
  cases run : write store with
  | ok done =>
    rw [TableWork.transact_of_ok run]
    exact step done.1 done.2 run
  | error failure =>
    rw [TableWork.transact_of_error run]
    exact .same

theorem query_step {α : Type} (read : GraphStore → Except StoreFailure α) :
    Step now store ((TableWork.query read).transact store).2 := by
  rw [TableWork.transact_query]
  exact .same

theorem respond_step (now : DateTime) (similar : Similarity) (request : GraphRequest)
    (store : GraphStore) : Step now store (store.respond now similar request).2 := by
  cases request with
  | upsert new => exact statement_step fun _ _ run => upsert_step run
  | create source target tag weight metadata => exact statement_step fun _ _ run => create_step run
  | delete id => exact .deleted id
  | _ => exact query_step _

@[simp] theorem respond_entitiesOfKinds (now : DateTime) (similar : Similarity) (kinds : List String)
    (limit : Option Int) (store : GraphStore) :
    store.respond now similar (.entitiesOfKinds kinds limit) = (store.entitiesOfKinds kinds limit, store) :=
  TableWork.transact_query _ _

@[simp] theorem respond_edgesOf (now : DateTime) (similar : Similarity) (id : String) (direction : Direction)
    (tags : List String) (least : Option Number) (limit : Option Int) (store : GraphStore) :
    store.respond now similar (.edgesOf id direction tags least limit) =
      (store.edgesOf id direction tags least limit, store) :=
  TableWork.transact_query _ _

@[simp] theorem respond_edgesTagged (now : DateTime) (similar : Similarity) (tag : String)
    (below : Option Number) (store : GraphStore) :
    store.respond now similar (.edgesTagged tag below) = (store.edgesTagged tag below, store) :=
  TableWork.transact_query _ _

@[simp] theorem respond_search (now : DateTime) (similar : Similarity) (terms : SimilaritySearch)
    (store : GraphStore) : store.respond now similar (.search terms) = (similar terms, store) :=
  TableWork.transact_query _ _

theorem respond_reads {request : GraphRequest} (reads : request.reads = true) :
    (store.respond now similar request).2 = store := by
  cases request with
  | upsert | create | delete => contradiction
  | _ => exact congrArg Prod.snd (TableWork.transact_query _ _)

/-- A request that fails leaves the stored graph as it was, for it is answered in a transaction. -/
theorem respond_error {similar : Similarity} {request : GraphRequest} {failure : StoreFailure}
    (failed : (store.respond now similar request).1 = .error failure) :
    (store.respond now similar request).2 = store :=
  TableWork.transact_error failed

theorem refreshed_name (now : DateTime) (old new e : Entity) :
    (refreshed now old new e).qualifiedName = e.qualifiedName := by
  unfold refreshed
  split
  · rename_i same
    exact (beq_iff_eq.mp same).symm
  · rfl

theorem entityNamed_some {name : String} {e : Entity} (found : store.entityNamed? name = some e) :
    e ∈ store.entities ∧ e.qualifiedName = name :=
  ⟨List.mem_of_find?_eq_some found, by simpa using List.find?_some found⟩

theorem entityNamed_none {name : String} :
    store.entityNamed? name = none ↔ ∀ e ∈ store.entities, e.qualifiedName ≠ name := by
  simp [entityNamed?, List.find?_eq_none]

theorem entity_some {id : String} {e : Entity} (found : store.entity? id = some e) :
    e ∈ store.entities ∧ e.id = id :=
  ⟨List.mem_of_find?_eq_some found, by simpa using List.find?_some found⟩

theorem hasEdge_iff {source target tag : String} :
    store.hasEdge source target (some tag) = true ↔
      ∃ e ∈ store.edges, e.source = source ∧ e.target = target ∧ e.tag = tag := by
  simp only [hasEdge, joins, List.any_eq_true, Bool.and_eq_true, beq_iff_eq, Option.all_some,
    and_assoc, eq_comm (a := tag)]

/-- Refreshed entities keep their ids, for names are given once. -/
theorem Sound.refreshed_id {old new e : Entity} (sound : store.Sound)
    (found : store.entityNamed? new.qualifiedName = some old) (member : e ∈ store.entities) :
    (refreshed now old new e).id = e.id := by
  unfold refreshed
  split
  · rename_i same
    obtain ⟨atOld, name⟩ := entityNamed_some found
    have equal : old = e := List.inj_on_of_nodup_map sound.names atOld member
      (name.trans (beq_iff_eq.mp same).symm)
    rw [equal, refresh]
  · rfl

theorem Sound.step (sound : store.Sound) (step : Step now store next) : next.Sound := by
  cases step with
  | same => exact sound
  | @refreshed old new found =>
    refine { sound with entityIds := ?_, names := ?_ }
    · have ids : (store.entities.map (refreshed now old new)).map (·.id) =
          store.entities.map (·.id) := by
        rw [List.map_map]
        exact List.map_congr_left fun e member => sound.refreshed_id found member
      exact ids ▸ sound.entityIds
    · have names : (store.entities.map (refreshed now old new)).map (·.qualifiedName) =
          store.entities.map (·.qualifiedName) := by
        rw [List.map_map]
        exact List.map_congr_left fun e _ => refreshed_name now old new e
      exact names ▸ sound.names
  | @stored new unknown free =>
    have otherName := entityNamed_none.mp unknown
    have otherId : ∀ e ∈ store.entities, e.id ≠ new.id := by
      simpa [entity?, List.find?_eq_none] using free
    refine { sound with entityIds := ?_, names := ?_ }
    · simpa [List.nodup_append, sound.entityIds] using otherId
    · simpa [List.nodup_append, sound.names] using otherName
  | @joined source target tag weight metadata bounds missing =>
    have otherJoint : ∀ e ∈ store.edges, ¬ (e.source = source ∧ e.target = target ∧ e.tag = tag) := by
      intro e member joint
      have present := hasEdge_iff.mpr ⟨e, member, joint⟩
      rw [missing] at present
      contradiction
    refine { sound with edgeIds := ?_, joints := ?_, weights := ?_, fresh := ?_ }
    · have otherId : ∀ e ∈ store.edges, e.id ≠ edgeId store.issued := fun e member =>
        sound.fresh e member store.issued le_rfl
      simpa [List.nodup_append, sound.edgeIds, nextEdge] using otherId
    · simpa [List.nodup_append, sound.joints, nextEdge] using otherJoint
    · intro e member
      rcases List.mem_append.mp member with old | new
      · exact sound.weights e old
      · cases List.mem_singleton.mp new
        exact bounds
    · intro e member n issued
      change store.issued + 1 ≤ n at issued
      rcases List.mem_append.mp member with old | new
      · exact sound.fresh e old n (by omega)
      · cases List.mem_singleton.mp new
        exact edgeId_injective.ne (by omega)
  | deleted id =>
    have remaining : (store.delete id).2.edges.Sublist store.edges := List.filter_sublist
    exact { sound with
      edgeIds := sound.edgeIds.sublist (remaining.map _)
      joints := sound.joints.sublist (remaining.map _)
      weights := fun e member => sound.weights e (remaining.subset member)
      fresh := fun e member => sound.fresh e (remaining.subset member) }

theorem Sound.respond (sound : store.Sound) (now : DateTime) (similar : Similarity)
    (request : GraphRequest) : (store.respond now similar request).2.Sound :=
  sound.step (respond_step now similar request store)

/-- A name stands for an entity with one id from the time when it is first stored. -/
theorem Step.id_stays {name : String} {e : Entity} (step : Step now store next)
    (found : store.entityNamed? name = some e) :
    ∃ later, next.entityNamed? name = some later ∧ later.id = e.id := by
  cases step with
  | @refreshed old new atOld =>
    have search : ((fun x : Entity => x.qualifiedName == name) ∘ GraphStore.refreshed now old new) =
        fun x => x.qualifiedName == name := by
      funext x
      rw [Function.comp_apply, refreshed_name]
    refine ⟨GraphStore.refreshed now old new e, ?_, ?_⟩
    · rw [entityNamed?, List.find?_map, search, show store.entities.find? _ = some e from found]
      rfl
    · unfold GraphStore.refreshed
      split
      · rename_i same
        have name' : name = new.qualifiedName :=
          (entityNamed_some found).2.symm.trans (beq_iff_eq.mp same)
        rw [name', atOld] at found
        cases found
        rfl
      · rfl
  | @stored new unknown free =>
    refine ⟨e, ?_, rfl⟩
    rw [entityNamed?, List.find?_append, show store.entities.find? _ = some e from found]
    rfl
  | same | joined | deleted => exact ⟨e, found, rfl⟩

/-- A request, with the time when it is answered and what searches are answered with. -/
structure Service where
  now : DateTime
  similar : Similarity
  request : GraphRequest

/-- The stored graph after requests were answered one after another, whether they failed or not. -/
def serve : List Service → GraphStore → GraphStore
  | [], store => store
  | service :: rest, store =>
    serve rest (store.respond service.now service.similar service.request).2

theorem Sound.serve (sound : store.Sound) (services : List Service) : (serve services store).Sound := by
  induction services generalizing store with
  | nil => exact sound
  | cons service rest ih => exact ih (sound.respond _ _ _)

theorem serve_id_stays {name : String} {e : Entity} (services : List Service)
    (found : store.entityNamed? name = some e) :
    ∃ later, (serve services store).entityNamed? name = some later ∧ later.id = e.id := by
  induction services generalizing store e with
  | nil => exact ⟨e, found, rfl⟩
  | cons service rest ih =>
    obtain ⟨middle, atMiddle, sameId⟩ := (respond_step service.now service.similar service.request
      store).id_stays found
    obtain ⟨later, atLater, sameLater⟩ := ih atMiddle
    exact ⟨later, atLater, sameLater.trans sameId⟩

/-- What creating an edge comes to, for a weight within bounds. -/
theorem respond_create (now : DateTime) (similar : Similarity) (source target tag : String)
    (weight : Float) (metadata : Members) (store : GraphStore) (bounds : 0.0 ≤ weight ∧ weight ≤ 1.0) :
    store.respond now similar (.create source target tag weight metadata) =
      if store.hasEdge source target (some tag) then (.ok none, store)
      else
        let edge := store.nextEdge now source target tag weight metadata
        (.ok (some edge), { store with edges := store.edges ++ [edge], issued := store.issued + 1 }) := by
  have created := create_eq now source target tag weight metadata store bounds
  by_cases present : store.hasEdge source target (some tag) = true
  · rw [if_pos present] at created ⊢
    exact TableWork.transact_of_ok created
  · rw [if_neg present] at created ⊢
    exact TableWork.transact_of_ok created

/-- Whatever has been asked of an empty stored graph: ids, names, and the ends of edges together with
their tag are given once; weights lie between zero and one; the id for a name stays from then on; an
edge is created if and only if there is none like it, and nothing else changes with it; and a request
that fails changes nothing. -/
theorem serve_empty_invariants (past : List Service) :
    let store := serve past .empty
    (store.entities.map (·.id)).Nodup ∧ (store.entities.map (·.qualifiedName)).Nodup ∧
      (store.edges.map (·.id)).Nodup ∧
      (store.edges.map fun e => (e.source, e.target, e.tag)).Nodup ∧
      (∀ e ∈ store.edges, 0.0 ≤ e.weight ∧ e.weight ≤ 1.0) ∧
      (∀ (future : List Service) (name : String) (e : Entity), store.entityNamed? name = some e →
        ∃ later, (serve future store).entityNamed? name = some later ∧ later.id = e.id) ∧
      (∀ (now : DateTime) (similar : Similarity) (source target tag : String) (weight : Float)
          (metadata : Members), 0.0 ≤ weight ∧ weight ≤ 1.0 →
        let joined := ∃ e ∈ store.edges, e.source = source ∧ e.target = target ∧ e.tag = tag
        let (reply, after) := store.respond now similar (.create source target tag weight metadata)
        (joined → reply = .ok none ∧ after = store) ∧
          (¬ joined → ∃ edge : Relationship, reply = .ok (some edge) ∧
            edge.source = source ∧ edge.target = target ∧ edge.tag = tag ∧ edge.weight = weight ∧
            edge.metadata = metadata ∧ edge.createdAt = now ∧
            after.edges = store.edges ++ [edge] ∧ after.entities = store.entities)) ∧
      ∀ (now : DateTime) (similar : Similarity) (request : GraphRequest) (failure : StoreFailure),
        (store.respond now similar request).1 = .error failure →
          (store.respond now similar request).2 = store := by
  intro store
  have sound : store.Sound := Sound.empty.serve past
  refine ⟨sound.entityIds, sound.names, sound.edgeIds, sound.joints, sound.weights, ?_, ?_, ?_⟩
  · intro future name e found
    exact serve_id_stays future found
  · intro now similar source target tag weight metadata bounds
    rw [respond_create now similar source target tag weight metadata store bounds]
    by_cases present : store.hasEdge source target (some tag) = true
    · rw [if_pos present]
      exact ⟨fun _ => ⟨rfl, rfl⟩, fun missing => absurd (hasEdge_iff.mp present) missing⟩
    · rw [if_neg present]
      exact ⟨fun joined => absurd (hasEdge_iff.mpr joined) present,
        fun _ => ⟨_, rfl, rfl, rfl, rfl, rfl, rfl, rfl, rfl, rfl⟩⟩
  · intro now similar request failure failed
    exact respond_error failed

theorem serve_empty_invariants_joined :
    let past : List Service := [⟨default, fun _ => .ok [], .create "a" "b" "calls" 0.5 []⟩]
    let store := serve past .empty
    let create (source target : String) :=
      store.respond default (fun _ => .ok []) (.create source target "calls" 0.5 [])
    (0.0 ≤ (0.5 : Float) ∧ (0.5 : Float) ≤ 1.0) ∧ create "a" "b" = (.ok none, store) ∧
      ∃ edge : Relationship,
        (create "b" "a").1 = .ok (some edge) ∧ (create "b" "a").2.edges = store.edges ++ [edge] := by
  intro past store create
  obtain ⟨_, _, _, _, _, _, creates, _⟩ := serve_empty_invariants past
  have bounds : 0.0 ≤ (0.5 : Float) ∧ (0.5 : Float) ≤ 1.0 := by decide
  have joined : ∃ e ∈ store.edges, e.source = "a" ∧ e.target = "b" ∧ e.tag = "calls" :=
    ⟨_, List.mem_singleton_self _, rfl, rfl, rfl⟩
  have missing : ¬ ∃ e ∈ store.edges, e.source = "b" ∧ e.target = "a" ∧ e.tag = "calls" := by
    decide +kernel
  obtain ⟨none, same⟩ := (creates default (fun _ => .ok []) "a" "b" "calls" 0.5 [] bounds).1 joined
  obtain ⟨edge, some, _, _, _, _, _, _, edges, _⟩ :=
    (creates default (fun _ => .ok []) "b" "a" "calls" 0.5 [] bounds).2 missing
  exact ⟨bounds, Prod.ext none same, edge, some, edges⟩

end GraphStore

end CodeGraph
