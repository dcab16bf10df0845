import CodeGraph.Linking.Linker
import CodeGraph.Proofs.Graph.Answers

namespace CodeGraph

open GraphStore (Answers)

/-- What a linker can be asked for, with all arguments. -/
inductive LinkerCall where
  | discover (threshold : Number) (perEntity : Int) (kinds : List String) (tag : Option String)
      (skipExisting : Bool)
  | linkNewEntity (id : String) (threshold : Number) (maxLinks : Int) (tag : Option String)
      (bidirectional : Bool)
  | batchLink (ids : List String) (threshold : Number) (maxLinks : Int)
  | updateLinks (id : String) (threshold : Number) (maxLinks : Int)
  | pruneWeakLinks (least : Option Number)
  | findRelated (query : String) (limit : Int) (threshold : Number) (kinds : List String)
  | findRelatedConcepts (id : String) (limit : Int) (threshold : Number)
  | semanticLinks (id direction : String) (least : Option Number)
  | suggestions (id : String) (limit : Int) (threshold : Number)

/-- A search gives such entities only. -/
def GraphRequest.Names (named : String → Prop) :
    (request : GraphRequest) → Except StoreFailure request.Value → Prop
  | .search _, .ok (found : List SimilarityMatch) => ∀ m ∈ found, named m.entity
  | _, _ => True

theorem GraphRequest.names_all (request : GraphRequest) (reply : Except StoreFailure request.Value) :
    request.Names (fun _ => True) reply := by
  cases request with
  | search terms => cases reply with
    | ok found => exact fun _ _ => trivial
    | error failure => exact trivial
  | _ => exact trivial

/-- A request is answered from the stored graph or fails, and a search gives such entities only. -/
def GraphStore.AnswersNaming (named : String → Prop) (request : GraphRequest) (before : GraphStore)
    (reply : Except StoreFailure request.Value) (after : GraphStore) : Prop :=
  Answers request before reply after ∧ request.Names named reply

open GraphStore (AnswersNaming)

namespace Linker

/-- What is done for a call, without its result. -/
def perform (linker : Linker) : LinkerCall → GraphTask Unit
  | .discover threshold perEntity kinds tag skipExisting => do
    discard (linker.discover threshold perEntity kinds tag skipExisting)
  | .linkNewEntity id threshold maxLinks tag bidirectional => do
    discard (linker.linkNewEntity id threshold maxLinks tag bidirectional)
  | .batchLink ids threshold maxLinks => do discard (linker.batchLink ids threshold maxLinks)
  | .updateLinks id threshold maxLinks => do discard (linker.updateLinks id threshold maxLinks)
  | .pruneWeakLinks least => do discard (linker.pruneWeakLinks least)
  | .findRelated query limit threshold kinds => do discard (findRelated query limit threshold kinds)
  | .findRelatedConcepts id limit threshold => do discard (findRelatedConcepts id limit threshold)
  | .semanticLinks id direction least =>
    match Direction.ofName direction with
    | .ok direction => do discard (linker.semanticLinks id direction least)
    | .error failure => throw failure
  | .suggestions id limit threshold => do discard (suggestions id limit threshold)

/-- The edges that relinking and pruning may delete. -/
def Owns (linker : Linker) (edge : Relationship) : Prop :=
  edge.isSemantic = true ∧ edge.tag = linker.tag

/-- A condition on stored graphs that joining stored entities with named ones keeps, as long as edges are
deleted by free ids only. -/
structure Invariant (linker : Linker) (present named free : String → Prop) (kept : GraphStore → Prop) :
    Prop where
  stored : ∀ store, kept store → ∀ e ∈ store.entities, present e.id
  joined : ∀ now store source target tag score, kept store → source ≠ target →
    (present source ∧ named target ∨ named source ∧ present target) →
    store.hasEdge source target (some tag) = false →
    kept { store with
      edges := store.edges ++
        [store.nextEdge now source target tag (Similarity.weight score) (discovered score)]
      issued := store.issued + 1 }
  owned : ∀ store, kept store → ∀ e ∈ store.edges, linker.Owns e → free e.id
  deleted : ∀ store id, kept store → free id → kept (store.delete id).2

/-- Tasks that keep a condition, whatever searches give of what may be named, and whatever fails. -/
def Upholds {α : Type} (named : String → Prop) (kept : GraphStore → Prop) (task : GraphTask α) : Prop :=
  task.Keeps (AnswersNaming named) kept fun _ => True

variable {linker : Linker} {present named free : String → Prop} {kept : GraphStore → Prop}

namespace Upholds

variable {α β : Type}

theorem pure (a : α) : Upholds named kept (Pure.pure a) :=
  Task.Keeps.pure trivial

theorem bind {task : GraphTask α} {f : α → GraphTask β} (upholds : Upholds named kept task)
    (after : ∀ a, Upholds named kept (f a)) : Upholds named kept (task >>= f) :=
  Task.Keeps.bind upholds fun a _ => after a

theorem bind_ite {c : Prop} [Decidable c] {yes no : GraphTask α} {f : α → GraphTask β}
    (upholds : c → Upholds named kept yes) (otherwise : ¬ c → Upholds named kept no)
    (after : ∀ a, Upholds named kept (f a)) :
    Upholds named kept (if c then yes >>= f else no >>= f) := by
  split
  · rename_i holds
    exact (upholds holds).bind after
  · rename_i fails
    exact (otherwise fails).bind after

theorem attempt {task : GraphTask α} (upholds : Upholds named kept task) :
    Upholds named kept (Task.attempt task) :=
  (Task.Keeps.attempt upholds).weaken fun _ _ => trivial

theorem discard {task : GraphTask α} (upholds : Upholds named kept task) :
    Upholds named kept (Functor.discard task) :=
  upholds.bind fun _ => .pure ()

/-- What a task keeps whatever searches give. -/
theorem of_answers {task : GraphTask α} {wanted : α → Prop} (keeps : task.Keeps Answers kept wanted) :
    Upholds named kept task :=
  (keeps.restrict fun _ _ _ _ answered => answered.1).weaken fun _ _ => trivial

theorem entity? (id : String) : Upholds named kept (GraphTask.entity? id) :=
  of_answers (GraphTask.entity?_keeps id)

end Upholds

theorem newMatches_unseen {seen : List String} {found : List SimilarityMatch} {m : SimilarityMatch}
    (member : m ∈ newMatches seen found) : m.entity ∉ seen := by
  induction found generalizing seen with
  | nil => simp [newMatches] at member
  | cons head rest ih =>
    unfold newMatches at member
    split at member
    · exact ih member
    · rename_i unseen
      rcases List.mem_cons.mp member with rfl | later
      · simpa using unseen
      · exact fun old => ih later (List.mem_cons_of_mem _ old)

theorem newMatches_sublist (seen : List String) (found : List SimilarityMatch) :
    (newMatches seen found).Sublist found := by
  induction found generalizing seen with
  | nil => exact .slnil
  | cons m rest ih =>
    unfold newMatches
    split
    · exact (ih seen).cons m
    · exact (ih (m.entity :: seen)).cons_cons m

namespace Invariant

/-- An entity that is found is stored. -/
theorem entity?_keeps (inv : linker.Invariant present named free kept) (id : String) :
    Task.Keeps (AnswersNaming named) kept (fun found => ∀ e, found = some e → e.id = id ∧ present id)
      (GraphTask.entity? id) := by
  refine (GraphTask.read_keeps (.entity id) rfl ?_).restrict fun _ _ _ _ answered => answered.1
  rintro now similar store _ start ⟨⟩ e found
  obtain ⟨member, rfl⟩ := GraphStore.entity_some found
  exact ⟨rfl, inv.stored store start e member⟩

theorem entitiesOfKinds_keeps (inv : linker.Invariant present named free kept) (kinds : List String) :
    Task.Keeps (AnswersNaming named) kept (fun entities => ∀ e ∈ entities, present e.id)
      (GraphTask.entitiesOfKinds kinds) := by
  refine (GraphTask.read_keeps (.entitiesOfKinds kinds none) rfl ?_).restrict
    fun _ _ _ _ answered => answered.1
  rintro now similar store _ start ⟨⟩ e member
  exact inv.stored store start e (List.mem_filter.mp member).1

theorem search_keeps (terms : SimilaritySearch) :
    Task.Keeps (AnswersNaming named) kept (fun found => ∀ m ∈ found, named m.entity)
      (GraphTask.search terms) := by
  refine .call fun before reply after start answered => ?_
  obtain ⟨answered, names⟩ := answered
  refine ⟨?_, fun found same => by subst same; exact names⟩
  cases answered with
  | served now similar =>
    rw [GraphStore.respond_search]
    exact start
  | failed failure => exact start

/-- Whatever a search gives, an entity is not a candidate for itself. -/
theorem candidates_keeps (entity : Entity) (limit : Int) (threshold : Number) (kinds : Option (List String)) :
    Task.Keeps (AnswersNaming named) kept (fun found => ∀ m ∈ found, entity.id ≠ m.entity ∧ named m.entity)
      (candidates entity limit threshold kinds) := by
  refine .bind (search_keeps _) fun found names => .pure fun m member => ⟨?_, ?_⟩
  · have unseen := newMatches_unseen member
    exact fun same => unseen (by simp [same])
  · exact names m ((newMatches_sublist _ found).subset member)

theorem candidates_upholds (entity : Entity) (limit : Int) (threshold : Number)
    (kinds : Option (List String)) : Upholds named kept (candidates entity limit threshold kinds) :=
  (candidates_keeps entity limit threshold kinds).weaken fun _ _ => trivial

/-- An edge found by similarity is added between two different ends. -/
theorem link (inv : linker.Invariant present named free kept) {source target tag : String} (score : Number)
    (different : source ≠ target) (ends : present source ∧ named target ∨ named source ∧ present target) :
    Upholds named kept (Linker.link source target tag score) := by
  refine Upholds.bind (.of_answers (GraphTask.hasEdge_keeps source target (some tag))) fun there => ?_
  split
  · exact .pure false
  · have create : Upholds named kept (GraphTask.create source target tag (Similarity.weight score)
        (discovered score)) :=
      .of_answers (GraphTask.create_keeps (Similarity.weight_mem score) fun now store start missing =>
        inv.joined now store source target tag score start different ends missing)
    exact create.bind fun _ => .pure _

theorem linkAll (inv : linker.Invariant present named free kept) {source tag : String}
    {found : List SimilarityMatch} (stored : present source)
    (others : ∀ m ∈ found, source ≠ m.entity ∧ named m.entity) :
    Upholds named kept (Linker.linkAll source tag found) := by
  induction found with
  | nil => exact .pure 0
  | cons m rest ih =>
    obtain ⟨⟨different, name⟩, later⟩ := List.forall_mem_cons.mp others
    exact (inv.link m.score different (.inl ⟨stored, name⟩)).bind fun _ => (ih later).bind fun _ => .pure _

theorem discoverFrom (inv : linker.Invariant present named free kept) {tag : String} {skipExisting : Bool}
    {similar : Entity → GraphTask (List SimilarityMatch)}
    (others : ∀ e, Task.Keeps (AnswersNaming named) kept
      (fun found => ∀ m ∈ found, e.id ≠ m.entity ∧ named m.entity) (similar e))
    {entities : List Entity} (stored : ∀ e ∈ entities, present e.id) (result : DiscoveryResult) :
    Upholds named kept (Linker.discoverFrom tag skipExisting similar entities result) := by
  induction entities generalizing result with
  | nil => exact .pure result
  | cons entity rest ih =>
    obtain ⟨here, later⟩ := List.forall_mem_cons.mp stored
    refine Upholds.bind_ite (fun _ => ?_) (fun _ => .pure []) fun existing => ?_
    · exact .of_answers (GraphTask.edgesOf_keeps (p := fun _ => True) fun _ _ _ _ _ => trivial)
    · dsimp only
      split
      · exact ih later _
      · refine Task.Keeps.bind (others entity).attempt fun found others => ?_
        cases found with
        | error failure => exact ih later _
        | ok found => exact (inv.linkAll here (others found rfl)).bind fun _ => ih later _

theorem discover (inv : linker.Invariant present named free kept) (threshold : Number) (perEntity : Int)
    (kinds : List String) (tag : Option String) (skipExisting : Bool) :
    Upholds named kept (linker.discover threshold perEntity kinds tag skipExisting) :=
  Task.Keeps.bind (inv.entitiesOfKinds_keeps kinds) fun _ stored =>
    inv.discoverFrom (fun e => candidates_keeps e _ threshold _) stored {}

theorem linkMatches (inv : linker.Invariant present named free kept) {source tag : String}
    (bidirectional : Bool) (allowance : Int) {found : List SimilarityMatch} (stored : present source)
    (others : ∀ m ∈ found, source ≠ m.entity ∧ named m.entity) :
    Upholds named kept (Linker.linkMatches source tag bidirectional allowance found) := by
  induction found generalizing allowance with
  | nil => exact .pure 0
  | cons m rest ih =>
    obtain ⟨⟨different, name⟩, later⟩ := List.forall_mem_cons.mp others
    unfold Linker.linkMatches
    split
    · exact .pure 0
    · refine (inv.link m.score different (.inl ⟨stored, name⟩)).bind fun out => ?_
      exact Upholds.bind_ite (fun _ => inv.link m.score different.symm (.inr ⟨name, stored⟩))
        (fun _ => .pure false) fun back => (ih _ later).bind fun _ => .pure _

theorem linkEntity (inv : linker.Invariant present named free kept) (id : String) (threshold : Number)
    (maxLinks : Int) (tag : Option String) (bidirectional : Bool) (known : Option (List SimilarityMatch))
    (others : ∀ found, known = some found → ∀ m ∈ found, id ≠ m.entity ∧ named m.entity) :
    Upholds named kept (linker.linkEntity id threshold maxLinks tag bidirectional known) := by
  refine Task.Keeps.bind (inv.entity?_keeps id) fun reply same => ?_
  cases reply with
  | none => exact Upholds.pure 0
  | some entity =>
    obtain ⟨sameId, stored⟩ := same entity rfl
    have linked (found : List SimilarityMatch) (others : ∀ m ∈ found, id ≠ m.entity ∧ named m.entity) :
        Upholds named kept (Linker.linkMatches id (linker.tagOr tag) bidirectional maxLinks found) :=
      inv.linkMatches bidirectional maxLinks stored others
    cases known with
    | none => exact (sameId ▸ candidates_keeps entity _ threshold none).bind linked
    | some found => exact (Task.Keeps.pure (others found rfl)).bind linked

theorem linkNewEntity (inv : linker.Invariant present named free kept) (id : String) (threshold : Number)
    (maxLinks : Int) (tag : Option String) (bidirectional : Bool) :
    Upholds named kept (linker.linkNewEntity id threshold maxLinks tag bidirectional) := by
  refine (inv.linkEntity id threshold maxLinks tag bidirectional none nofun).attempt.bind fun outcome => ?_
  cases outcome with
  | error failure => exact .pure 0
  | ok created => exact .pure created

theorem batchLinkFrom (inv : linker.Invariant present named free kept) (threshold : Number) (maxLinks : Int)
    {total : ℕ} (ids : List String) (linking : BatchLinking) :
    Upholds named kept (Linker.batchLinkFrom linker threshold maxLinks total ids linking) := by
  induction ids generalizing linking with
  | nil => exact .pure linking
  | cons id rest ih =>
    refine (inv.linkEntity id threshold maxLinks none false none nofun).attempt.bind fun outcome => ?_
    cases outcome with
    | error failure => exact ih _
    | ok created => exact ih _

theorem delete (inv : linker.Invariant present named free kept) {id : String} (isFree : free id) :
    Upholds named kept (GraphTask.delete id) :=
  .of_answers (GraphTask.delete_keeps fun store start => inv.deleted store id start isFree)

theorem deleteWhere (inv : linker.Invariant present named free kept) {unwanted : Relationship → Bool}
    {edges : List Relationship} (areFree : ∀ e ∈ edges, unwanted e = true → free e.id) :
    Upholds named kept (Linker.deleteWhere unwanted edges) := by
  induction edges with
  | nil => exact .pure 0
  | cons edge rest ih =>
    obtain ⟨here, later⟩ := List.forall_mem_cons.mp areFree
    exact Upholds.bind_ite (fun isUnwanted => inv.delete (here isUnwanted)) (fun _ => .pure false)
      fun _ => (ih later).bind fun _ => .pure _

theorem updateLinks (inv : linker.Invariant present named free kept) (id : String) (threshold : Number)
    (maxLinks : Int) : Upholds named kept (linker.updateLinks id threshold maxLinks) := by
  refine Task.Keeps.bind (inv.entity?_keeps id) fun reply same => ?_
  cases reply with
  | none => exact Upholds.pure 0
  | some entity =>
    refine Task.Keeps.bind (candidates_keeps entity _ threshold none).attempt fun found others => ?_
    cases found with
    | error failure => exact Upholds.pure 0
    | ok found =>
      have existing : Task.Keeps (AnswersNaming named) kept
          (fun edges => ∀ e ∈ edges, e.isSemantic = true → free e.id)
          (GraphTask.edgesOf id .out [linker.tag]) :=
        (GraphTask.edgesOf_keeps fun store start edge member tagged semantic =>
          inv.owned store start edge member ⟨semantic, by simpa using tagged⟩).restrict
            fun _ _ _ _ answered => answered.1
      refine Task.Keeps.bind existing fun edges areFree => ?_
      refine (inv.deleteWhere areFree).bind fun _ => inv.linkEntity id _ _ _ _ _ ?_
      intro again sameFound
      cases sameFound
      exact (same entity rfl).1 ▸ others found rfl

theorem pruneWeakLinks (inv : linker.Invariant present named free kept) (least : Option Number) :
    Upholds named kept (linker.pruneWeakLinks least) := by
  have weak : Task.Keeps (AnswersNaming named) kept
      (fun edges => ∀ e ∈ edges, e.isSemantic = true → free e.id) (GraphTask.edgesTagged linker.tag least) :=
    (GraphTask.edgesTagged_keeps fun store start edge member tagged semantic =>
      inv.owned store start edge member ⟨semantic, tagged⟩).restrict fun _ _ _ _ answered => answered.1
  refine Task.Keeps.bind weak fun edges areFree => ?_
  cases least with
  | some least =>
    exact inv.deleteWhere fun e member light => areFree e member (Bool.and_eq_true_iff.mp light).2
  | none =>
    dsimp only
    split
    · exact Upholds.pure 0
    · exact Task.Keeps.throw _

end Invariant

-- Calls that only read keep every condition.

theorem similarity_upholds (title : String) (score : Number) : Upholds named kept (similarity title score) := by
  unfold similarity
  split
  · exact .pure _
  · exact Task.Keeps.throw _

theorem stored_upholds (found : List SimilarityMatch) : Upholds named kept (stored found) := by
  induction found with
  | nil => exact .pure []
  | cons m rest ih =>
    refine (Upholds.entity? m.entity).bind fun reply => ?_
    cases reply with
    | none => exact ih
    | some entity => exact (similarity_upholds _ _).bind fun _ => ih.bind fun _ => .pure _

theorem findRelated_upholds (query : String) (limit : Int) (threshold : Number) (kinds : List String) :
    Upholds named kept (findRelated query limit threshold kinds) := by
  refine (Upholds.attempt (.of_answers (GraphTask.search_keeps _))).bind fun outcome => ?_
  cases outcome with
  | error failure => exact .pure []
  | ok found => exact stored_upholds found

theorem findRelatedConcepts_upholds (id : String) (limit : Int) (threshold : Number) :
    Upholds named kept (findRelatedConcepts id limit threshold) := by
  refine (Upholds.entity? id).bind fun reply => ?_
  cases reply with
  | none => exact .pure []
  | some entity =>
    refine (Invariant.candidates_upholds entity _ threshold _).attempt.bind fun outcome => ?_
    cases outcome with
    | error failure => exact .pure []
    | ok found => exact (stored_upholds found).bind fun _ => .pure _

theorem seenFrom_upholds (id : String) (edges : List Relationship) :
    Upholds named kept (seenFrom id edges) := by
  induction edges with
  | nil => exact .pure []
  | cons edge rest ih => exact (Upholds.entity? _).bind fun _ => ih.bind fun _ => .pure _

theorem semanticLinks_upholds (linker : Linker) (id : String) (direction : Direction)
    (least : Option Number) : Upholds named kept (linker.semanticLinks id direction least) := by
  refine Upholds.bind (.of_answers (GraphTask.edgesOf_keeps (p := fun _ => True) fun _ _ _ _ _ => trivial)) ?_
  exact fun edges => seenFrom_upholds id edges

theorem suggest_upholds (entity : Entity) (allowance : Int) (found : List SimilarityMatch) :
    Upholds named kept (suggest entity allowance found) := by
  induction found generalizing allowance with
  | nil => exact .pure []
  | cons m rest ih =>
    unfold suggest
    split
    · exact .pure []
    · refine Upholds.bind (.of_answers (GraphTask.hasEdge_keeps entity.id m.entity none)) fun present => ?_
      split
      · exact ih _
      · refine (Upholds.entity? m.entity).bind fun reply => ?_
        cases reply with
        | none => exact ih _
        | some other =>
          dsimp only
          split
          · exact Task.Keeps.throw _
          · exact (similarity_upholds _ _).bind fun _ => (ih _).bind fun _ => .pure _

theorem suggestions_upholds (id : String) (limit : Int) (threshold : Number) :
    Upholds named kept (suggestions id limit threshold) := by
  refine (Upholds.entity? id).bind fun reply => ?_
  cases reply with
  | none => exact .pure []
  | some entity =>
    refine (Invariant.candidates_upholds entity _ threshold _).attempt.bind fun outcome => ?_
    cases outcome with
    | error failure => exact .pure []
    | ok found => exact suggest_upholds entity limit found

/-- Whatever is asked of a linker keeps the condition. -/
theorem Invariant.perform (inv : linker.Invariant present named free kept) (call : LinkerCall) :
    Upholds named kept (linker.perform call) := by
  cases call with
  | discover threshold perEntity kinds tag skipExisting =>
    exact (inv.discover threshold perEntity kinds tag skipExisting).discard
  | linkNewEntity id threshold maxLinks tag bidirectional =>
    exact (inv.linkNewEntity id threshold maxLinks tag bidirectional).discard
  | batchLink ids threshold maxLinks => exact (inv.batchLinkFrom threshold maxLinks ids {}).discard
  | updateLinks id threshold maxLinks => exact (inv.updateLinks id threshold maxLinks).discard
  | pruneWeakLinks least => exact (inv.pruneWeakLinks least).discard
  | findRelated query limit threshold kinds =>
    exact (findRelated_upholds query limit threshold kinds).discard
  | findRelatedConcepts id limit threshold => exact (findRelatedConcepts_upholds id limit threshold).discard
  | semanticLinks id direction least =>
    simp only [Linker.perform]
    split
    · exact (semanticLinks_upholds linker id _ least).discard
    · exact Task.Keeps.throw _
  | suggestions id limit threshold => exact (suggestions_upholds id limit threshold).discard

end Linker

end CodeGraph
