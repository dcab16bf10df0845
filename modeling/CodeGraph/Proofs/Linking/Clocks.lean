import CodeGraph.Proofs.Graph.Interleaved
import CodeGraph.Proofs.Linking.Relinking

namespace CodeGraph

/-- The stored graph with the requests that were answered, the latest first. -/
structure Served where
  store : GraphStore
  asked : List GraphRequest := []

/-- How searches are answered and what the clock shows, by what has been asked before. -/
structure Surroundings where
  similar : List GraphRequest → Similarity
  clock : List GraphRequest → DateTime

def Surroundings.respond (around : Surroundings) (request : GraphRequest) (served : Served) :
    Except StoreFailure request.Value × Served :=
  let answer := served.store.respond (around.clock served.asked) (around.similar served.asked) request
  (answer.1, ⟨answer.2, request :: served.asked⟩)

/-- The same requests have led to the same graph, but for the ids and times of edges. -/
structure Served.Alike (served other : Served) : Prop where
  entities : served.store.entities = other.store.entities
  edges : served.store.edges.map Linker.bare = other.store.edges.map Linker.bare
  asked : served.asked = other.asked

namespace GraphRequest

/-- The requests by which entities are linked. -/
def Links : GraphRequest → Prop
  | .entity _ | .hasEdge _ _ _ | .create _ _ _ _ _ | .search _ => True
  | _ => False

/-- Replies that agree, of a new edge in that there is one. -/
def Agrees : (request : GraphRequest) →
    Except StoreFailure request.Value → Except StoreFailure request.Value → Prop
  | .create _ _ _ _ _, reply, other => reply.map Option.isSome = other.map Option.isSome
  | _, reply, other => reply = other

end GraphRequest

/-- A program that links entities, and goes on in one way after all replies that agree. -/
def Program.Blind {α : Type} : GraphProgram α → Prop
  | .done _ => True
  | .ask request rest => request.Links ∧
      ∀ reply other, request.Agrees reply other → rest reply = rest other ∧ (rest reply).Blind

section

variable {α β : Type} {served other : Served} {around elsewhere : Surroundings}

theorem Served.Alike.hasEdge (alike : served.Alike other) (source target : String) (tag : Option String) :
    served.store.hasEdge source target tag = other.store.hasEdge source target tag := by
  have bare (edges : List Relationship) : edges.any (GraphStore.joins source target tag) =
      (edges.map Linker.bare).any (GraphStore.joins source target tag) := by
    rw [List.any_map]
    rfl
  rw [GraphStore.hasEdge, GraphStore.hasEdge, bare, alike.edges, ← bare]

theorem Served.Alike.respond_create (alike : served.Alike other) (now later : DateTime)
    (similar similarLater : Similarity) (source target tag : String) (weight : Float) (metadata : Members) :
    let request : GraphRequest := .create source target tag weight metadata
    let first := served.store.respond now similar request
    let second := other.store.respond later similarLater request
    request.Agrees first.1 second.1 ∧
      first.2.entities = second.2.entities ∧ first.2.edges.map Linker.bare = second.2.edges.map Linker.bare := by
  intro request first second
  cases checked : Reader.unit weight with
  | error issues =>
    have failed (store : GraphStore) (time : DateTime) (similar : Similarity) :
        store.respond time similar request =
          (.error (.invalid ⟨"Relationship", issues.map (·.under (.field "weight"))⟩), store) := by
      refine TableWork.transact_of_error ?_
      simp only [GraphStore.create, checked]
      rfl
    rw [show first = _ from failed _ _ _, show second = _ from failed _ _ _]
    exact ⟨rfl, alike.entities, alike.edges⟩
  | ok same =>
    have bounds := (Reader.unit_eq_ok_iff.mp checked).2
    have there := alike.hasEdge source target (some tag)
    simp only [first, second, request,
      GraphStore.respond_create _ _ source target tag weight metadata _ bounds, there]
    split
    · exact ⟨rfl, alike.entities, alike.edges⟩
    · refine ⟨rfl, alike.entities, ?_⟩
      rw [List.map_append, List.map_append, alike.edges]
      rfl

/-- One request keeps graphs alike, whatever the clocks show. -/
theorem Surroundings.respond_alike {request : GraphRequest} (links : request.Links) (alike : served.Alike other)
    (same : around.similar = elsewhere.similar) :
    request.Agrees (around.respond request served).1 (elsewhere.respond request other).1 ∧
      (around.respond request served).2.Alike (elsewhere.respond request other).2 := by
  have asked : request :: served.asked = request :: other.asked := by rw [alike.asked]
  cases request with
  | entity id =>
    have found : served.store.entity? id = other.store.entity? id := by
      rw [GraphStore.entity?, alike.entities, GraphStore.entity?]
    exact ⟨congrArg Except.ok found, alike.entities, alike.edges, asked⟩
  | hasEdge source target tag =>
    exact ⟨congrArg Except.ok (alike.hasEdge source target tag), alike.entities, alike.edges, asked⟩
  | search terms =>
    have answer : around.similar served.asked terms = elsewhere.similar other.asked terms := by
      rw [same, alike.asked]
    simp only [Surroundings.respond, GraphStore.respond_search]
    exact ⟨answer, alike.entities, alike.edges, asked⟩
  | create source target tag weight metadata =>
    obtain ⟨agrees, entities, edges⟩ := alike.respond_create (around.clock served.asked)
      (elsewhere.clock other.asked) (around.similar served.asked) (elsewhere.similar other.asked) source target
      tag weight metadata
    exact ⟨agrees, entities, edges, asked⟩
  | _ => exact absurd links id

theorem Program.Blind.run_alike {program : GraphProgram α} (blind : program.Blind) (alike : served.Alike other)
    (same : around.similar = elsewhere.similar) :
    (program.run around.respond served).1 = (program.run elsewhere.respond other).1 ∧
      (program.run around.respond served).2.Alike (program.run elsewhere.respond other).2 := by
  induction program generalizing served other with
  | done a => exact ⟨rfl, alike⟩
  | ask request rest ih =>
    obtain ⟨links, goesOn⟩ := blind
    obtain ⟨agrees, after⟩ := Surroundings.respond_alike links alike same
    obtain ⟨goesOnAlike, still⟩ := goesOn _ _ agrees
    have first : Program.run around.respond (.ask request rest) served =
        (rest (around.respond request served).1).run around.respond (around.respond request served).2 := rfl
    have second : Program.run elsewhere.respond (.ask request rest) other =
        (rest (around.respond request served).1).run elsewhere.respond (elsewhere.respond request other).2 := by
      rw [goesOnAlike]
      rfl
    rw [first, second]
    exact ih _ still after

theorem Program.Blind.bind {program : GraphProgram α} {f : α → GraphProgram β} (blind : program.Blind)
    (after : ∀ a, (f a).Blind) : (program.bind f).Blind := by
  induction program with
  | done a => exact after a
  | ask request rest ih =>
    refine ⟨blind.1, fun reply other agrees => ?_⟩
    obtain ⟨same, still⟩ := blind.2 reply other agrees
    exact ⟨congrArg (Program.bind · f) same, ih reply still⟩

end

namespace GraphTask

variable {α β : Type}

/-- A task that looks at no id of an edge and at no time. -/
def Blind (task : GraphTask α) : Prop :=
  task.run.Blind

theorem Blind.pure (a : α) : Blind (Pure.pure a) :=
  trivial

theorem Blind.bind {task : GraphTask α} {f : α → GraphTask β} (blind : task.Blind)
    (after : ∀ a, (f a).Blind) : (task >>= f).Blind := by
  refine Program.Blind.bind blind fun result => ?_
  cases result with
  | ok a => exact after a
  | error failure => exact trivial

theorem Blind.attempt {task : GraphTask α} (blind : task.Blind) : Blind (Task.attempt task) :=
  Program.Blind.bind blind fun _ => trivial

theorem entity?_blind (id : String) : (entity? id).Blind :=
  ⟨trivial, fun _ _ agrees => ⟨congrArg Program.done agrees, trivial⟩⟩

theorem hasEdge_blind (source target : String) (tag : Option String) : (hasEdge source target tag).Blind :=
  ⟨trivial, fun _ _ agrees => ⟨congrArg Program.done agrees, trivial⟩⟩

theorem search_blind (terms : SimilaritySearch) : (search terms).Blind :=
  ⟨trivial, fun _ _ agrees => ⟨congrArg Program.done agrees, trivial⟩⟩

end GraphTask

namespace Linker

/-- Of a new edge it is only told that there is one. -/
theorem created_blind (source target tag : String) (weight : Float) (metadata : Members) :
    GraphTask.Blind (do
      let edge ← GraphTask.create source target tag weight metadata
      return edge.isSome) := by
  let told := fun reply : Except StoreFailure (Option Relationship) =>
    (.done (reply.map Option.isSome) : GraphProgram (Except StoreFailure Bool))
  have run : (do
      let edge ← GraphTask.create source target tag weight metadata
      return edge.isSome : GraphTask Bool).run =
        .ask (.create source target tag weight metadata) told :=
    congrArg (Program.ask _) (funext fun reply => by cases reply <;> rfl)
  rw [GraphTask.Blind, run]
  exact ⟨trivial, fun reply other agrees => ⟨congrArg Program.done agrees, trivial⟩⟩

theorem link_blind (source target tag : String) (score : Number) : (link source target tag score).Blind := by
  refine (GraphTask.hasEdge_blind source target (some tag)).bind fun present => ?_
  split
  · exact .pure false
  · exact created_blind source target tag _ _

theorem linkMatches_blind (source tag : String) (bidirectional : Bool) (allowance : Int)
    (found : List SimilarityMatch) : (linkMatches source tag bidirectional allowance found).Blind := by
  induction found generalizing allowance with
  | nil => exact .pure 0
  | cons m rest ih =>
    unfold linkMatches
    split
    · exact .pure 0
    · refine (link_blind source m.entity tag m.score).bind fun out => ?_
      have rest_blind (back : Bool) : GraphTask.Blind (do
          let more ← linkMatches source tag bidirectional (allowance - out.toInt) rest
          return out.toNat + back.toNat + more) := (ih _).bind fun _ => .pure _
      split
      · exact (link_blind m.entity source tag m.score).bind rest_blind
      · exact GraphTask.Blind.bind (.pure false) rest_blind

theorem linkEntity_blind (linker : Linker) (id : String) (threshold : Number) (maxLinks : Int)
    (tag : Option String) (bidirectional : Bool) :
    (linker.linkEntity id threshold maxLinks tag bidirectional).Blind := by
  refine (GraphTask.entity?_blind id).bind fun reply => ?_
  cases reply with
  | none => exact .pure 0
  | some entity =>
    have found : (candidates entity (maxLinks + 1) threshold).Blind :=
      (GraphTask.search_blind _).bind fun found => .pure _
    exact found.bind fun found => linkMatches_blind id _ bidirectional maxLinks found

theorem batchLinkFrom_blind (linker : Linker) (threshold : Number) (maxLinks : Int) (total : ℕ)
    (ids : List String) (linking : BatchLinking) :
    (batchLinkFrom linker threshold maxLinks total ids linking).Blind := by
  induction ids generalizing linking with
  | nil => exact .pure linking
  | cons id rest ih =>
    refine (linkEntity_blind linker id threshold maxLinks none false).attempt.bind fun outcome => ?_
    cases outcome with
    | ok created => exact ih _
    | error failure => exact ih _

end Linker

end CodeGraph
