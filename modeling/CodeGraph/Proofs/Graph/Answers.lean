import CodeGraph.Proofs.Graph.Sound
import CodeGraph.Proofs.Programs

namespace CodeGraph

/-- What is left of a program on the stored graph. -/
abbrev GraphProgram (α : Type) : Type :=
  Program GraphRequest (fun request => Except StoreFailure request.Value) α

/-- A request is answered from the stored graph, with any answer to a search, or it fails and changes
nothing. -/
inductive GraphStore.Answers (request : GraphRequest) (store : GraphStore) :
    Except StoreFailure request.Value → GraphStore → Prop
  | served (now : DateTime) (similar : Similarity) : Answers request store
      (store.respond now similar request).1 (store.respond now similar request).2
  | failed (failure : StoreFailure) : Answers request store (.error failure) store

theorem GraphStore.answers_respond (now : DateTime) (similar : Similarity) (request : GraphRequest)
    (store : GraphStore) : Answers request store (respond now similar request store).1
      (respond now similar request store).2 :=
  .served now similar

namespace GraphTask

open GraphStore (Answers)

variable {kept : GraphStore → Prop}

theorem read_keeps (request : GraphRequest) {wanted : request.Value → Prop}
    (reads : request.reads = true)
    (holds : ∀ now similar store a, kept store →
      (GraphStore.respond now similar request store).1 = .ok a → wanted a) :
    Task.Keeps Answers kept wanted
      (Task.call request : Task StoreFailure GraphRequest GraphRequest.Value _) := by
  refine .call fun before reply after start answered => ?_
  cases answered with
  | served now similar =>
    rw [GraphStore.respond_reads reads]
    exact ⟨start, fun a => holds now similar before a start⟩
  | failed failure => exact ⟨start, by rintro _ ⟨⟩⟩

theorem entity?_keeps (id : String) :
    Task.Keeps Answers kept (fun found => ∀ e, found = some e → e.id = id) (entity? id) := by
  refine read_keeps (.entity id) rfl ?_
  rintro now similar store _ _ ⟨⟩ e found
  exact (GraphStore.entity_some found).2

theorem hasEdge_keeps (source target : String) (tag : Option String) :
    Task.Keeps Answers kept (fun _ => True) (hasEdge source target tag) :=
  read_keeps (.hasEdge source target tag) rfl fun _ _ _ _ _ _ => trivial

theorem search_keeps (terms : SimilaritySearch) :
    Task.Keeps Answers kept (fun _ => True) (search terms) :=
  read_keeps (.search terms) rfl fun _ _ _ _ _ _ => trivial

theorem limited_subset {α : Type} (limit : Option Int) (items : List α) :
    limited limit items ⊆ items := by
  unfold limited
  split
  · split
    · exact List.Subset.refl items
    · exact List.take_subset _ _
  · exact List.Subset.refl items

/-- Edges that were asked for are stored edges. -/
theorem edgesOf_keeps {p : Relationship → Prop} {id : String} {direction : Direction} {tags : List String}
    {least : Option Number} {limit : Option Int}
    (stored : ∀ store, kept store → ∀ e ∈ store.edges, (tags = [] ∨ e.tag ∈ tags) → p e) :
    Task.Keeps Answers kept (fun edges => ∀ e ∈ edges, p e)
      (edgesOf id direction tags least limit) := by
  refine read_keeps (.edgesOf id direction tags least limit) rfl ?_
  intro now similar store edges start answered e member
  rw [GraphStore.respond_edgesOf] at answered
  unfold GraphStore.edgesOf at answered
  split at answered
  · cases answered
    have found := limited_subset _ _ member
    simp only [List.mem_filter, Bool.and_eq_true, Bool.or_eq_true, List.isEmpty_iff,
      List.contains_iff_mem] at found
    exact stored store start e found.1 found.2.1.2
  · simp at answered

theorem edgesTagged_keeps {p : Relationship → Prop} {tag : String} {below : Option Number}
    (stored : ∀ store, kept store → ∀ e ∈ store.edges, e.tag = tag → p e) :
    Task.Keeps Answers kept (fun edges => ∀ e ∈ edges, p e) (edgesTagged tag below) := by
  refine read_keeps (.edgesTagged tag below) rfl ?_
  intro now similar store edges start answered e member
  rw [GraphStore.respond_edgesTagged] at answered
  unfold GraphStore.edgesTagged at answered
  split at answered
  · cases answered
    simp only [List.mem_filter, Bool.and_eq_true, beq_iff_eq] at member
    exact stored store start e member.1 member.2.1
  · simp at answered

theorem create_keeps {source target tag : String} {weight : Float} {metadata : Members}
    (bounds : 0.0 ≤ weight ∧ weight ≤ 1.0)
    (joined : ∀ now store, kept store → store.hasEdge source target (some tag) = false →
      kept { store with
        edges := store.edges ++ [store.nextEdge now source target tag weight metadata]
        issued := store.issued + 1 }) :
    Task.Keeps Answers kept (fun _ => True) (create source target tag weight metadata) := by
  refine Task.Keeps.call fun before reply after start answered => ⟨?_, fun _ _ => trivial⟩
  cases answered with
  | served now similar =>
    rw [GraphStore.respond_create now similar source target tag weight metadata before bounds]
    split
    · exact start
    · rename_i missing
      exact joined now before start (by simpa using missing)
  | failed failure => exact start

theorem delete_keeps {id : String} (deleted : ∀ store, kept store → kept (store.delete id).2) :
    Task.Keeps Answers kept (fun _ => True) (delete id) := by
  refine Task.Keeps.call fun before reply after start answered => ⟨?_, fun _ _ => trivial⟩
  cases answered with
  | served now similar => exact deleted before start
  | failed failure => exact start

end GraphTask

end CodeGraph
