import CodeGraph.Proofs.Graph.Answers
import Mathlib.Algebra.GroupWithZero.Nat
import Mathlib.Data.List.Forall2
import Mathlib.Logic.Relation

namespace CodeGraph

namespace GraphRequest

/-- The number of edges that a request has made, by what it is answered with. -/
def made : (request : GraphRequest) → Except StoreFailure request.Value → ℕ
  | .create _ _ _ _ _, .ok (some _) => 1
  | _, _ => 0

/-- The store answers all that it is asked for, while a search may fail. -/
def answered : (request : GraphRequest) → Except StoreFailure request.Value → Bool
  | .search _, _ => true
  | _, .ok _ => true
  | _, .error _ => false

theorem answered_ok {request : GraphRequest} {reply : Except StoreFailure request.Value}
    (answered : request.answered reply = true) (answers : ∀ terms, request ≠ .search terms) :
    ∃ a, reply = .ok a := by
  cases reply with
  | ok a => exact ⟨a, rfl⟩
  | error failure =>
    cases request with
    | search terms => exact absurd rfl (answers terms)
    | _ => exact absurd answered Bool.false_ne_true

end GraphRequest

namespace GraphStore

variable {store next : GraphStore} {now : DateTime} {similar : Similarity}

theorem upsert_edges {new entity : Entity} (run : store.upsert now new = .ok (entity, next)) :
    next.edges = store.edges := by
  unfold upsert at run
  split at run
  · simp at run
  · split at run
    · cases run
      rfl
    · split at run
      · simp at run
      · cases run
        rfl

/-- No request but a deletion takes edges away, and its answer tells whether it has added one. -/
theorem respond_made (now : DateTime) (similar : Similarity) (store : GraphStore)
    {request : GraphRequest} (keeps : ∀ id, request ≠ .delete id) :
    ∃ added, (store.respond now similar request).2.edges = store.edges ++ added ∧
      added.length = request.made (store.respond now similar request).1 := by
  cases request with
  | create source target tag weight metadata =>
    rcases create_answers now similar store source target tag weight metadata with
      ⟨failure, failed⟩ | bounds
    · rw [failed]
      exact ⟨[], (List.append_nil _).symm, rfl⟩
    · rw [respond_create now similar source target tag weight metadata store bounds]
      split
      · exact ⟨[], (List.append_nil _).symm, rfl⟩
      · exact ⟨_, rfl, rfl⟩
  | upsert new =>
    refine ⟨[], ?_, rfl⟩
    rw [List.append_nil]
    rcases upsert_answers now similar store new with ⟨failure, failed⟩ | ⟨entity, next, run, answered⟩
    · rw [failed]
    · rw [answered]
      exact upsert_edges run
  | delete id => exact absurd rfl (keeps id)
  | _ => exact ⟨[], by rw [respond_reads rfl, List.append_nil], rfl⟩

/-- An edge that was asked for is there once the request is answered, whoever made it. -/
theorem respond_joined {source target tag : String} {weight : Float} {metadata : Members}
    {edge : Option Relationship}
    (answered : (store.respond now similar (.create source target tag weight metadata)).1 = .ok edge) :
    ∃ e ∈ (store.respond now similar (.create source target tag weight metadata)).2.edges,
      e.source = source ∧ e.target = target ∧ e.tag = tag := by
  rcases create_answers now similar store source target tag weight metadata with
    ⟨failure, failed⟩ | bounds
  · rw [failed] at answered
    contradiction
  · rw [respond_create now similar source target tag weight metadata store bounds]
    split
    · rename_i present
      exact hasEdge_iff.mp present
    · exact ⟨_, List.mem_append_right _ (List.mem_singleton_self _), rfl, rfl, rfl⟩

end GraphStore

section

variable {α β : Type}

/-- A program never deletes, and after it has made so many more edges than `count`, as its requests are
answered, it ends in what is wanted for their number. -/
def Program.Counts (wanted : ℕ → α → Prop) : (count : ℕ) → GraphProgram α → Prop
  | count, .done a => wanted count a
  | count, .ask request rest => (∀ id, request ≠ .delete id) ∧
      ∀ reply, request.answered reply = true → (rest reply).Counts wanted (count + request.made reply)

theorem Program.Counts.bind {middle : ℕ → α → Prop} {wanted : ℕ → β → Prop} {count : ℕ}
    {program : GraphProgram α} {f : α → GraphProgram β} (counts : program.Counts middle count)
    (after : ∀ n a, middle n a → (f a).Counts wanted n) : (program.bind f).Counts wanted count := by
  induction program generalizing count with
  | done a => exact after count a counts
  | ask request rest ih => exact ⟨counts.1, fun reply answered => ih reply (counts.2 reply answered)⟩

theorem Program.Counts.weaken {wanted weaker : ℕ → α → Prop} {count : ℕ} {program : GraphProgram α}
    (counts : program.Counts wanted count) (implies : ∀ n a, wanted n a → weaker n a) :
    program.Counts weaker count := by
  induction program generalizing count with
  | done a => exact implies count a counts
  | ask request rest ih => exact ⟨counts.1, fun reply answered => ih reply (counts.2 reply answered)⟩

/-- Programs side by side on one stored graph, with the requests that have been put to it. -/
structure Shared (α : Type) where
  store : GraphStore
  programs : List (GraphProgram α)
  requests : List GraphRequest := []

/-- The next request of one of the programs is answered, at any time and with any answer to a search. -/
inductive Shared.Step : Shared α → Shared α → Prop
  | answered (now : DateTime) (similar : Similarity) {store : GraphStore}
      {left right : List (GraphProgram α)} {request : GraphRequest}
      {rest : Except StoreFailure request.Value → GraphProgram α} {requests : List GraphRequest} :
      request.answered (store.respond now similar request).1 = true →
      Step ⟨store, left ++ .ask request rest :: right, requests⟩
        ⟨(store.respond now similar request).2,
          left ++ rest (store.respond now similar request).1 :: right, request :: requests⟩

/-- Answers the next request of a program, unless the store fails to. -/
def Shared.serve (now : DateTime) (similar : Similarity) (shared : Shared α) (turn : ℕ) : Shared α :=
  match shared.programs.drop turn with
  | .ask request rest :: right =>
    let answer := shared.store.respond now similar request
    if request.answered answer.1 then
      ⟨answer.2, shared.programs.take turn ++ rest answer.1 :: right, request :: shared.requests⟩
    else shared
  | _ => shared

/-- Everything that programs can lead to together. -/
abbrev Shared.Reaches (first last : Shared α) : Prop :=
  Relation.ReflTransGen Shared.Step first last

theorem Shared.reaches_serve (now : DateTime) (similar : Similarity) (shared : Shared α) (turn : ℕ) :
    shared.Reaches (shared.serve now similar turn) := by
  unfold serve
  split
  · rename_i request rest right following
    dsimp only
    split
    · rename_i answered
      have whole := List.take_append_drop turn shared.programs
      rw [following] at whole
      have step : Step ⟨shared.store, shared.programs.take turn ++ .ask request rest :: right,
          shared.requests⟩ _ := .answered now similar answered
      rw [whole] at step
      exact .single step
    · exact .refl
  · exact .refl

theorem Shared.reaches_foldl (now : DateTime) (similar : Similarity) (turns : List ℕ)
    (shared : Shared α) : shared.Reaches (turns.foldl (Shared.serve now similar) shared) := by
  induction turns generalizing shared with
  | nil => exact .refl
  | cons turn rest ih => exact (reaches_serve now similar shared turn).trans (ih _)

/-- What a program has come to, if it is done. -/
def Program.result? : GraphProgram α → Option α
  | .done a => some a
  | .ask _ _ => none

theorem Program.map_result? {programs : List (GraphProgram α)} {results : List α}
    (done : programs.map Program.result? = results.map some) : programs = results.map .done := by
  rw [← List.forall₂_eq_eq_eq, List.forall₂_map_right_iff] at done ⊢
  refine (List.forall₂_map_left_iff.mp done).imp fun program result same => ?_
  cases program with
  | done a => exact congrArg _ (Option.some.inj same)
  | ask request rest => exact absurd same (by simp [result?])

/-- What holds while programs that count edges are at work, with the number of edges that each of them
has made so far. -/
structure Shared.Tallied (wanted : ℕ → α → Prop) (first : GraphStore) (shared : Shared α)
    (counts : List ℕ) : Prop where
  sound : shared.store.Sound
  added : ∃ added, shared.store.edges = first.edges ++ added ∧ counts.sum = added.length
  programs : List.Forall₂ (fun count program => Program.Counts wanted count program) counts
    shared.programs
  joined : ∀ source target tag weight metadata,
    .create source target tag weight metadata ∈ shared.requests →
      ∃ e ∈ shared.store.edges, e.source = source ∧ e.target = target ∧ e.tag = tag

variable {wanted : ℕ → α → Prop} {first : GraphStore} {shared next : Shared α} {counts : List ℕ}

theorem Shared.Tallied.start {programs : List (GraphProgram α)} (sound : first.Sound)
    (fresh : ∀ program ∈ programs, Program.Counts wanted 0 program) :
    Tallied wanted first ⟨first, programs, []⟩ (programs.map fun _ => 0) where
  sound := sound
  added := ⟨[], (List.append_nil _).symm, by simp⟩
  programs := by
    rw [List.forall₂_map_left_iff, List.forall₂_same]
    exact fresh
  joined := nofun

/-- Only the program whose request is answered has made an edge, if one was made. -/
theorem Shared.Tallied.step (tallied : Tallied wanted first shared counts) (step : Step shared next) :
    ∃ later, Tallied wanted first next later := by
  cases step with
  | @answered now similar store left right request rest requests answered =>
    obtain ⟨sound, ⟨added, edges, total⟩, programs, joined⟩ := tallied
    have before := List.forall₂_take_append _ _ _ programs
    obtain ⟨count, others, ⟨keeps, goesOn⟩, after, dropped⟩ :=
      List.forall₂_cons_right_iff.mp (List.forall₂_drop_append _ _ _ programs)
    -- The store grows by what this request makes, and so does the count of the program that asked.
    obtain ⟨new, grown, one⟩ := GraphStore.respond_made now similar store keeps
    let made := request.made (store.respond now similar request).1
    refine ⟨counts.take left.length ++ (count + made) :: others, sound.respond now similar request,
      ⟨added ++ new, ?_, ?_⟩, List.rel_append before (.cons (goesOn _ answered) after), ?_⟩
    · rw [grown, edges, List.append_assoc]
    · have split : counts = counts.take left.length ++ count :: others :=
        dropped ▸ (List.take_append_drop left.length counts).symm
      rw [split] at total
      simp only [List.sum_append, List.sum_cons, List.length_append] at total ⊢
      omega
    · intro source target tag weight metadata member
      rcases List.mem_cons.mp member with rfl | earlier
      · obtain ⟨edge, answered⟩ := GraphRequest.answered_ok answered nofun
        exact GraphStore.respond_joined answered
      · obtain ⟨e, stored, ends⟩ := joined source target tag weight metadata earlier
        exact ⟨e, grown ▸ List.mem_append_left _ stored, ends⟩

theorem Shared.Reaches.tallied {programs : List (GraphProgram α)} {last : Shared α}
    (reaches : Reaches ⟨first, programs, []⟩ last) (sound : first.Sound)
    (fresh : ∀ program ∈ programs, Program.Counts wanted 0 program) :
    ∃ counts, Tallied wanted first last counts := by
  induction reaches with
  | refl => exact ⟨_, .start sound fresh⟩
  | tail _ step ih =>
    obtain ⟨counts, tallied⟩ := ih
    exact tallied.step step

end

namespace GraphTask

variable {α β : Type}

/-- Tasks that do not fail. -/
abbrev never : ℕ → Prop := fun _ => False

theorem never.elim {failed : ℕ → Prop} (n : ℕ) (fails : never n) : failed n :=
  False.elim fails

/-- What is wanted of a result, or where a task may fail. -/
def Ends (wanted : ℕ → α → Prop) (failed : ℕ → Prop) (count : ℕ) : Except StoreFailure α → Prop
  | .ok a => wanted count a
  | .error _ => failed count

/-- A task counts the edges that it makes, and fails only where it may. -/
def Counts (wanted : ℕ → α → Prop) (failed : ℕ → Prop) (count : ℕ) (task : GraphTask α) : Prop :=
  task.run.Counts (Ends wanted failed) count

variable {wanted : ℕ → α → Prop} {failed : ℕ → Prop} {count : ℕ}

theorem Counts.pure {a : α} (holds : wanted count a) :
    Counts wanted failed count (Pure.pure a) :=
  holds

theorem Counts.weaken {weaker : ℕ → α → Prop} {late : ℕ → Prop} {task : GraphTask α}
    (counts : Counts wanted failed count task) (implies : ∀ n a, wanted n a → weaker n a)
    (fails : ∀ n, failed n → late n) : Counts weaker late count task := by
  refine Program.Counts.weaken counts fun n result holds => ?_
  cases result with
  | ok a => exact implies n a holds
  | error failure => exact fails n holds

theorem Counts.bind {middle : ℕ → α → Prop} {wanted : ℕ → β → Prop} {early : ℕ → Prop}
    {task : GraphTask α} {f : α → GraphTask β} (counts : Counts middle early count task)
    (fails : ∀ n, early n → failed n) (after : ∀ n a, middle n a → Counts wanted failed n (f a)) :
    Counts wanted failed count (task >>= f) := by
  refine Program.Counts.bind counts fun n result holds => ?_
  cases result with
  | ok a => exact after n a holds
  | error failure => exact fails n holds

/-- A task that does not fail leaves the rest to end as it may. -/
theorem Counts.next {middle : ℕ → α → Prop} {wanted : ℕ → β → Prop} {task : GraphTask α}
    {f : α → GraphTask β} (counts : Counts middle never count task)
    (after : ∀ n a, middle n a → Counts wanted failed n (f a)) :
    Counts wanted failed count (task >>= f) :=
  counts.bind never.elim after

theorem Counts.next_ite {middle : ℕ → α → Prop} {wanted : ℕ → β → Prop} {c : Prop} [Decidable c]
    {yes no : GraphTask α} {f : α → GraphTask β} (counts : c → Counts middle never count yes)
    (otherwise : ¬ c → Counts middle never count no)
    (after : ∀ n a, middle n a → Counts wanted failed n (f a)) :
    Counts wanted failed count (if c then yes >>= f else no >>= f) := by
  split
  · rename_i holds
    exact (counts holds).next after
  · rename_i wrong
    exact (otherwise wrong).next after

theorem Counts.attempt {task : GraphTask α} (counts : Counts wanted failed count task) :
    Counts (Ends wanted failed) never count (Task.attempt task) :=
  Program.Counts.bind counts fun _ _ holds => holds

/-- Most requests make no edges and are answered. -/
theorem call_counts {request : GraphRequest} (keeps : ∀ id, request ≠ .delete id)
    (quiet : ∀ reply, request.made reply = 0) (answers : ∀ terms, request ≠ .search terms) :
    Counts (fun n _ => n = count) never count
      (Task.call request : Task StoreFailure GraphRequest GraphRequest.Value _) := by
  refine ⟨keeps, fun reply answered => ?_⟩
  obtain ⟨a, rfl⟩ := GraphRequest.answered_ok answered answers
  change count + request.made (.ok a) = count
  rw [quiet, Nat.add_zero]

theorem entity?_counts (id : String) : Counts (fun n _ => n = count) never count (entity? id) :=
  call_counts nofun (fun _ => rfl) nofun

theorem entityNamed?_counts (name : String) :
    Counts (fun n _ => n = count) never count (entityNamed? name) :=
  call_counts nofun (fun _ => rfl) nofun

theorem entitiesOfKinds_counts (kinds : List String) :
    Counts (fun n _ => n = count) never count (entitiesOfKinds kinds) :=
  call_counts nofun (fun _ => rfl) nofun

theorem upsert_counts (entity : Entity) :
    Counts (fun n _ => n = count) never count (upsert entity) :=
  call_counts nofun (fun _ => rfl) nofun

theorem hasEdge_counts (source target : String) (tag : Option String) :
    Counts (fun n _ => n = count) never count (hasEdge source target tag) :=
  call_counts nofun (fun _ => rfl) nofun

theorem edgesOf_counts (id : String) (direction : Direction) (tags : List String)
    (least : Option Number) (limit : Option Int) :
    Counts (fun n _ => n = count) never count (edgesOf id direction tags least limit) :=
  call_counts nofun (fun _ => rfl) nofun

theorem search_counts (terms : SimilaritySearch) :
    Counts (fun n _ => n = count) (· = count) count (search terms) := by
  refine ⟨nofun, fun reply _ => ?_⟩
  cases reply with
  | ok found => exact rfl
  | error failure => exact rfl

theorem create_counts (source target tag : String) (weight : Float) (metadata : Members) :
    Counts (fun n (edge : Option Relationship) => n = count + edge.isSome.toNat) never count
      (create source target tag weight metadata) := by
  refine ⟨nofun, fun reply answered => ?_⟩
  obtain ⟨edge, rfl⟩ := GraphRequest.answered_ok answered nofun
  change Option Relationship at edge
  cases edge with
  | none => exact rfl
  | some edge => exact rfl

end GraphTask

end CodeGraph
