import CodeGraph.Proofs.Linking.Calls

namespace CodeGraph

open GraphStore (Answers)

namespace Linker

/-- The stored graphs that calls of a linker lead to, one after another. Each call may be cut off after
any of its requests, and its failure does not keep others from being made. -/
inductive Reach (linker : Linker) (first : GraphStore) : GraphStore → Prop
  | start : Reach linker first first
  | next {call : LinkerCall} {rest : Program GraphRequest _ (Except StoreFailure Unit)}
      {before after : GraphStore} : Reach linker first before →
      (linker.perform call).run.Reaches Answers before rest after → Reach linker first after

/-- An edge as linking makes it. -/
structure Found (edge : Relationship) : Prop where
  scored : ∃ score, edge.metadata = discovered score ∧ Similarity.IsClamped score edge.weight
  ends : edge.source ≠ edge.target

/-- What a linker has left alone of an earlier stored graph. -/
structure Frame (linker : Linker) (first store : GraphStore) : Prop where
  sound : store.Sound
  entities : store.entities = first.entities
  others : ∀ e ∈ first.edges, ¬ linker.Owns e → e ∈ store.edges
  found : ∀ e ∈ store.edges, e ∈ first.edges ∨ Found e

theorem Frame.refl {linker : Linker} {first : GraphStore} (sound : first.Sound) :
    Frame linker first first :=
  ⟨sound, rfl, fun _ member _ => member, fun _ member => .inl member⟩

variable {linker : Linker} {first : GraphStore}

/-- An edge of the linker has another id than an edge that must stay. -/
theorem Frame.owned_id {store : GraphStore} {edge : Relationship} (frame : Frame linker first store)
    (member : edge ∈ store.edges) (owned : linker.Owns edge) :
    ∀ e ∈ first.edges, ¬ linker.Owns e → e.id ≠ edge.id := by
  intro e old free sameId
  have same : e = edge :=
    List.inj_on_of_nodup_map frame.sound.edgeIds (frame.others e old free) member sameId
  exact free (same ▸ owned)

/-- An edge with two ends, marked as found by similarity, may be added. -/
theorem Frame.joined {store : GraphStore} {source target tag : String} (frame : Frame linker first store)
    (now : DateTime) (score : Number) (different : source ≠ target)
    (missing : store.hasEdge source target (some tag) = false) :
    Frame linker first { store with
      edges := store.edges ++
        [store.nextEdge now source target tag (Similarity.weight score) (discovered score)]
      issued := store.issued + 1 } := by
  have step : GraphStore.Step now store _ := .joined (discovered score) (Similarity.weight_mem score) missing
  refine ⟨frame.sound.step step, frame.entities, ?_, ?_⟩
  · exact fun e member free => List.mem_append_left _ (frame.others e member free)
  · intro e member
    rcases List.mem_append.mp member with old | new
    · exact frame.found e old
    · cases List.mem_singleton.mp new
      exact .inr ⟨⟨score, rfl, Similarity.isClamped_weight score⟩, different⟩

theorem Frame.deleted {store : GraphStore} {id : String} (frame : Frame linker first store)
    (free : ∀ e ∈ first.edges, ¬ linker.Owns e → e.id ≠ id) : Frame linker first (store.delete id).2 := by
  have step : GraphStore.Step default store _ := .deleted id
  refine ⟨frame.sound.step step, frame.entities, ?_, ?_⟩
  · intro e member others
    exact List.mem_filter.mpr ⟨frame.others e member others, by simpa using free e member others⟩
  · exact fun e member => frame.found e (List.mem_filter.mp member).1

theorem frame_invariant : linker.Invariant (fun _ => True) (fun _ => True)
    (fun id => ∀ e ∈ first.edges, ¬ linker.Owns e → e.id ≠ id) (Frame linker first) where
  stored _ _ _ _ := trivial
  joined now _ _ _ _ score frame different _ missing := frame.joined now score different missing
  owned _ frame _ member owned := frame.owned_id member owned
  deleted _ _ frame free := frame.deleted free

theorem perform_framed (call : LinkerCall) :
    (linker.perform call).Keeps Answers (Frame linker first) fun _ => True := by
  refine (frame_invariant.perform call).restrict fun request _ reply _ answered => ⟨answered, ?_⟩
  exact GraphRequest.names_all request reply

theorem Reach.frame {last : GraphStore} (reach : linker.Reach first last) (sound : first.Sound) :
    Frame linker first last := by
  induction reach with
  | start => exact .refl sound
  | @next call rest before after previous performed ih =>
    exact (performed.keeps (perform_framed call) ih).1

/-- Whatever has been asked of a linker, and wherever it is cut off, all earlier edges but those found by
similarity with its tag are there as they were, so are the entities, and an edge that is not an earlier
one says in its metadata that it was found by similarity and how similar its two ends are. -/
theorem reach_frame {last : GraphStore} (sound : first.Sound) (reach : linker.Reach first last) :
    (∀ e ∈ first.edges, ¬ (e.isSemantic = true ∧ e.tag = linker.tag) → e ∈ last.edges) ∧
      last.entities = first.entities ∧
      ∀ e ∈ last.edges, e ∉ first.edges → e.source ≠ e.target ∧ ∃ score : Number,
        e.metadata = [("discoveredBy", .str "semantic"), ("similarity", .ofNumber score)] ∧
          Similarity.IsClamped score e.weight := by
  have frame := reach.frame sound
  refine ⟨frame.others, frame.entities, fun e member new => ?_⟩
  obtain ⟨scored, ends⟩ := (frame.found e member).resolve_left new
  exact ⟨ends, scored⟩

def sampleEntity (id : String) : Entity :=
  { id, kind := .concept, name := id, qualifiedName := id, createdAt := default, updatedAt := default }

/-- An entity joined to one other by an author, and to another one by a search. -/
def sampleGraph : GraphStore :=
  let requests : List GraphRequest := [.upsert (sampleEntity "a"), .upsert (sampleEntity "b"),
    .upsert (sampleEntity "c"), .create "a" "b" "RELATES_TO" 1.0 [],
    .create "a" "c" "RELATES_TO" 0.5 (discovered (.float 0.5))]
  GraphStore.serve (requests.map fun request => ⟨default, fun _ => .ok [], request⟩) .empty

theorem sampleGraph_sound : sampleGraph.Sound :=
  GraphStore.Sound.empty.serve _

def sampleSimilarity : Similarity :=
  fun _ => .ok [⟨"a", .float 1.0, none⟩, ⟨"b", .float 0.9, none⟩, ⟨"c", .float 0.75, none⟩]

def relinkedSample : GraphStore :=
  let task := ({} : Linker).perform (.updateLinks "a" (.float 0.5) 3)
  (task.runIn (GraphStore.respond default sampleSimilarity) sampleGraph).2

theorem reach_relinkedSample : ({} : Linker).Reach sampleGraph relinkedSample :=
  .next .start (Program.reaches_run id (GraphStore.answers_respond _ _) _ _)

theorem reach_frame_relinkedSample :
    sampleGraph.Sound ∧ ({} : Linker).Reach sampleGraph relinkedSample ∧
      ((∀ e ∈ sampleGraph.edges, ¬ (e.isSemantic = true ∧ e.tag = ({} : Linker).tag) →
          e ∈ relinkedSample.edges) ∧
        relinkedSample.entities = sampleGraph.entities ∧
        ∀ e ∈ relinkedSample.edges, e ∉ sampleGraph.edges → e.source ≠ e.target ∧ ∃ score : Number,
          e.metadata = [("discoveredBy", .str "semantic"), ("similarity", .ofNumber score)] ∧
            Similarity.IsClamped score e.weight) ∧
      sampleGraph.edges.map (·.id) = [GraphStore.edgeId 0, GraphStore.edgeId 1] ∧
      relinkedSample.edges.map (·.id) = [GraphStore.edgeId 0, GraphStore.edgeId 2] :=
  ⟨sampleGraph_sound, reach_relinkedSample, reach_frame sampleGraph_sound reach_relinkedSample,
    by decide +kernel, by decide +kernel⟩

end Linker

end CodeGraph
