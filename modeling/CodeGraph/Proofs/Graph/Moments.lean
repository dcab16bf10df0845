import CodeGraph.Proofs.Graph.Answers

namespace CodeGraph

/-- When a call is answered, and the failure it meets if the store is out of order then. -/
structure Moment where
  now : DateTime
  fault : Option StoreFailure := none

namespace Moment

variable {moment : Moment} {similar : Similarity} {request : GraphRequest} {store : GraphStore}

/-- Answers a request at a moment. A call that meets a fault changes nothing. -/
def respond (moment : Moment) (similar : Similarity) (request : GraphRequest) (store : GraphStore) :
    Except StoreFailure request.Value × GraphStore :=
  match moment.fault with
  | some failure => (.error failure, store)
  | none => store.respond moment.now similar request

theorem respond_answers (moment : Moment) (similar : Similarity) (request : GraphRequest)
    (store : GraphStore) : GraphStore.Answers request store (moment.respond similar request store).1
      (moment.respond similar request store).2 := by
  unfold respond
  split
  · exact .failed _
  · exact .served _ _

theorem respond_of_fault {failure : StoreFailure} (fault : moment.fault = some failure) :
    moment.respond similar request store = (.error failure, store) := by
  unfold respond
  rw [fault]

theorem respond_of_order (order : moment.fault = none) :
    moment.respond similar request store = store.respond moment.now similar request := by
  unfold respond
  rw [order]

end Moment

/-- What is known of moments: which times they may have, and whether the store may be out of order at them. -/
structure Span where
  times : Set DateTime
  faulty : Prop

namespace Span

/-- Moments are as is known of them. -/
def Covers (span : Span) (moments : ℕ → Moment) : Prop :=
  ∀ n, (moments n).now ∈ span.times ∧ ((moments n).fault ≠ none → span.faulty)

/-- All that there is to know of moments. -/
def of (moments : ℕ → Moment) : Span where
  times := Set.range fun n => (moments n).now
  faulty := ∃ n, (moments n).fault ≠ none

theorem of_covers (moments : ℕ → Moment) : (of moments).Covers moments :=
  fun n => ⟨Set.mem_range_self n, fun fault => ⟨n, fault⟩⟩

end Span

namespace GraphTask

variable {α β : Type} {moments : ℕ → Moment} {clock : ℕ → DateTime} {similar : Similarity}
  {store : GraphStore}

/-- Answers a request at the first of the moments to come. -/
def respondNext (similar : Similarity) (request : GraphRequest) (state : (ℕ → Moment) × GraphStore) :
    Except StoreFailure request.Value × (ℕ → Moment) × GraphStore :=
  let answer := (state.1 0).respond similar request state.2
  (answer.1, fun n => state.1 (n + 1), answer.2)

/-- What a task comes to when its calls are answered at such moments, one after another. -/
def runAmid (moments : ℕ → Moment) (similar : Similarity) (task : GraphTask α) (store : GraphStore) :
    Except StoreFailure α × GraphStore :=
  let ran := task.runIn (respondNext similar) (moments, store)
  (ran.1, ran.2.2)

/-- The moments that are left after a task. -/
def left (moments : ℕ → Moment) (similar : Similarity) (task : GraphTask α) (store : GraphStore) :
    ℕ → Moment :=
  (task.runIn (respondNext similar) (moments, store)).2.1

theorem run_left (program : GraphProgram α) (moments : ℕ → Moment) (similar : Similarity)
    (store : GraphStore) :
    ∃ k, (program.run (respondNext similar) (moments, store)).2.1 = fun n => moments (n + k) := by
  induction program generalizing moments store with
  | done a => exact ⟨0, rfl⟩
  | ask request rest ih =>
    obtain ⟨k, shifted⟩ := ih ((moments 0).respond similar request store).1 (fun n => moments (n + 1))
      ((moments 0).respond similar request store).2
    exact ⟨k + 1, shifted⟩

/-- A task uses up the first moments, as many as it has calls. -/
theorem exists_left (moments : ℕ → Moment) (similar : Similarity) (task : GraphTask α)
    (store : GraphStore) : ∃ k, task.left moments similar store = fun n => moments (n + k) :=
  run_left task.run moments similar store

/-- Every moment that is left is one of all. -/
theorem left_mem (moments : ℕ → Moment) (similar : Similarity) (task : GraphTask α) (store : GraphStore)
    (n : ℕ) : ∃ m, task.left moments similar store n = moments m := by
  obtain ⟨k, shifted⟩ := exists_left moments similar task store
  exact ⟨n + k, congrFun shifted n⟩

theorem left_covers {span : Span} (covers : span.Covers moments) (task : GraphTask α) :
    span.Covers (task.left moments similar store) := by
  intro n
  obtain ⟨m, same⟩ := left_mem moments similar task store n
  exact same ▸ covers m

theorem runAmid_bind (task : GraphTask α) (f : α → GraphTask β) :
    (task >>= f).runAmid moments similar store =
      match task.runAmid moments similar store with
      | (.ok a, next) => (f a).runAmid (task.left moments similar store) similar next
      | (.error failure, next) => (.error failure, next) := by
  unfold runAmid left
  rw [Task.runIn_bind]
  rcases Task.runIn (respondNext similar) task (moments, store) with ⟨_ | _, _, _⟩ <;> rfl

@[simp] theorem runAmid_attempt (task : GraphTask α) :
    GraphTask.runAmid moments similar (Task.attempt task) store =
      (.ok (task.runAmid moments similar store).1, (task.runAmid moments similar store).2) := by
  unfold runAmid
  rw [Task.runIn_attempt (respondNext similar) task (moments, store)]

theorem runAmid_call (request : GraphRequest) :
    GraphTask.runAmid moments similar (Task.call request) store =
      (moments 0).respond similar request store :=
  rfl

/-- A call is served at a time that it may have, or it meets a fault and changes nothing. -/
theorem runAmid_call_cases {span : Span} (covers : span.Covers moments) (request : GraphRequest) :
    (∃ time ∈ span.times, GraphTask.runAmid moments similar (Task.call request) store =
        store.respond time similar request) ∨
      span.faulty ∧ ∃ failure, GraphTask.runAmid moments similar (Task.call request) store =
        (.error failure, store) := by
  obtain ⟨within, faults⟩ := covers 0
  cases fault : (moments 0).fault with
  | none => exact .inl ⟨_, within, Moment.respond_of_order fault⟩
  | some failure => exact .inr ⟨faults (by simp [fault]), failure, Moment.respond_of_fault fault⟩

theorem runAmid_entityNamed?_cases {span : Span} (covers : span.Covers moments) (name : String) :
    (entityNamed? name).runAmid moments similar store = (.ok (store.entityNamed? name), store) ∨
      span.faulty ∧ ∃ failure, (entityNamed? name).runAmid moments similar store = (.error failure, store) :=
  (runAmid_call_cases covers (.entityNamed name)).imp_left fun ⟨_, _, served⟩ => served

theorem runAmid_hasEdge_cases {span : Span} (covers : span.Covers moments) (source target : String)
    (tag : Option String) :
    (hasEdge source target tag).runAmid moments similar store =
        (.ok (store.hasEdge source target tag), store) ∨
      span.faulty ∧ ∃ failure, (hasEdge source target tag).runAmid moments similar store =
        (.error failure, store) :=
  (runAmid_call_cases covers (.hasEdge source target tag)).imp_left fun ⟨_, _, served⟩ => served

/-- A run is one of the ways in which a task can come to its end. -/
theorem reaches_runAmid {answers : Program.Answering GraphRequest
      (fun request => Except StoreFailure request.Value) GraphStore} {moments : ℕ → Moment}
    {similar : Similarity} (answered : ∀ moment request store, answers request store
      (Moment.respond moment similar request store).1 (Moment.respond moment similar request store).2)
    (task : GraphTask α) (store : GraphStore) :
    Program.Reaches answers task.run store (.done (task.runAmid moments similar store).1)
      (task.runAmid moments similar store).2 :=
  Program.reaches_run (fun state : (ℕ → Moment) × GraphStore => state.2)
    (fun request state => answered (state.1 0) request state.2) task.run (moments, store)

/-- Moments at which the store is in order. -/
def inOrder (clock : ℕ → DateTime) (n : ℕ) : Moment :=
  { now := clock n }

/-- What a task comes to when its calls are answered at such times, one after another, and searches in
one way. -/
def runOn (clock : ℕ → DateTime) (similar : Similarity) (task : GraphTask α) (store : GraphStore) :
    Except StoreFailure α × GraphStore :=
  task.runAmid (inOrder clock) similar store

/-- The times that are left after a task. -/
def after (clock : ℕ → DateTime) (similar : Similarity) (task : GraphTask α) (store : GraphStore)
    (n : ℕ) : DateTime :=
  (task.left (inOrder clock) similar store n).now

theorem left_inOrder (task : GraphTask α) :
    task.left (inOrder clock) similar store = inOrder (task.after clock similar store) := by
  obtain ⟨k, shifted⟩ := exists_left (inOrder clock) similar task store
  funext n
  rw [inOrder, after, shifted]
  rfl

/-- Every time that is left is one of all. -/
theorem after_mem (clock : ℕ → DateTime) (similar : Similarity) (task : GraphTask α) (store : GraphStore)
    (n : ℕ) : ∃ m, task.after clock similar store n = clock m := by
  obtain ⟨m, same⟩ := left_mem (inOrder clock) similar task store n
  exact ⟨m, congrArg Moment.now same⟩

theorem runOn_bind (task : GraphTask α) (f : α → GraphTask β) :
    (task >>= f).runOn clock similar store =
      match task.runOn clock similar store with
      | (.ok a, next) => (f a).runOn (task.after clock similar store) similar next
      | (.error failure, next) => (.error failure, next) := by
  unfold runOn
  rw [runAmid_bind, left_inOrder]

@[simp] theorem runOn_pure (a : α) : GraphTask.runOn clock similar (pure a) store = (.ok a, store) :=
  rfl

@[simp] theorem after_pure (a : α) : GraphTask.after clock similar (pure a) store = clock :=
  rfl

@[simp] theorem runOn_attempt (task : GraphTask α) :
    GraphTask.runOn clock similar (Task.attempt task) store =
      (.ok (task.runOn clock similar store).1, (task.runOn clock similar store).2) :=
  runAmid_attempt task

theorem runOn_call (request : GraphRequest) :
    GraphTask.runOn clock similar (Task.call request) store = store.respond (clock 0) similar request :=
  (runAmid_call request).trans (Moment.respond_of_order rfl)

@[simp] theorem runOn_entity? (id : String) :
    (entity? id).runOn clock similar store = (.ok (store.entity? id), store) :=
  rfl

theorem after_hasEdge (source target : String) (tag : Option String) :
    (hasEdge source target tag).after clock similar store = fun n => clock (n + 1) :=
  rfl

theorem runOn_create (source target tag : String) (weight : Float) (metadata : Members) :
    (create source target tag weight metadata).runOn clock similar store =
      store.respond (clock 0) similar (.create source target tag weight metadata) :=
  runOn_call _

@[simp] theorem runOn_hasEdge (source target : String) (tag : Option String) :
    (hasEdge source target tag).runOn clock similar store =
      (.ok (store.hasEdge source target tag), store) :=
  rfl

@[simp] theorem runOn_edgesOf (id : String) (direction : Direction) (tags : List String)
    (least : Option Number) (limit : Option Int) :
    (edgesOf id direction tags least limit).runOn clock similar store =
      (store.edgesOf id direction tags least limit, store) :=
  GraphStore.respond_edgesOf _ _ _ _ _ _ _ _

@[simp] theorem runOn_edgesTagged (tag : String) (below : Option Number) :
    (edgesTagged tag below).runOn clock similar store = (store.edgesTagged tag below, store) :=
  GraphStore.respond_edgesTagged _ _ _ _ _

@[simp] theorem runOn_delete (id : String) :
    (delete id).runOn clock similar store = (.ok (store.delete id).1, (store.delete id).2) :=
  rfl

@[simp] theorem runOn_search (terms : SimilaritySearch) :
    (search terms).runOn clock similar store = (similar terms, store) :=
  GraphStore.respond_search _ _ _ _

end GraphTask

namespace GraphStore

variable {α : Type} {moments : ℕ → Moment} {similar : Similarity} {store next : GraphStore}

theorem Sound.answers {request : GraphRequest} {reply : Except StoreFailure request.Value}
    (sound : store.Sound) (answered : Answers request store reply next) :
    next.Sound := by
  cases answered with
  | served now similar => exact sound.respond now similar request
  | failed failure => exact sound

theorem Sound.reaches {program rest : GraphProgram α} (sound : store.Sound)
    (reach : program.Reaches Answers store rest next) : next.Sound := by
  induction reach with
  | start => exact sound
  | next _ answered ih => exact ih.answers answered

/-- What a task leads to is as the store keeps it, whatever faults its calls meet. -/
theorem Sound.runAmid (sound : store.Sound) (task : GraphTask α) :
    (task.runAmid moments similar store).2.Sound :=
  sound.reaches (GraphTask.reaches_runAmid (fun moment => moment.respond_answers similar) task store)

end GraphStore

end CodeGraph
