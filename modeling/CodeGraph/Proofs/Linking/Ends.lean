import CodeGraph.Proofs.Linking.Visiting
import Mathlib.Data.Set.Finite.Basic

namespace CodeGraph

open GraphStore (AnswersNaming)

/-- An entity with the id is stored. -/
def GraphStore.Stores (store : GraphStore) (id : String) : Prop :=
  ∃ e ∈ store.entities, e.id = id

instance (store : GraphStore) (id : String) : Decidable (store.Stores id) :=
  inferInstanceAs (Decidable (∃ e ∈ store.entities, e.id = id))

theorem GraphStore.Stores.entity? {store : GraphStore} {id : String} (stored : store.Stores id) :
    ∃ e, store.entity? id = some e := by
  obtain ⟨e, member, same⟩ := stored
  exact Option.isSome_iff_exists.mp (List.find?_isSome.mpr ⟨e, member, beq_iff_eq.mpr same⟩)

theorem GraphStore.exists_unused_tag (store : GraphStore) : ∃ tag, tag ≠ "" ∧ ∀ e ∈ store.edges, e.tag ≠ tag := by
  have endless : (Set.range GraphStore.edgeId).Infinite := Set.infinite_range_of_injective edgeId_injective
  obtain ⟨tag, -, unused⟩ := endless.exists_notMem_finset (insert "" (store.edges.map (·.tag)).toFinset)
  rw [Finset.mem_insert, List.mem_toFinset, not_or] at unused
  exact ⟨tag, unused.1, fun e member same => unused.2 (same ▸ List.mem_map_of_mem member)⟩

namespace Linker

variable {linker : Linker} {named : String → Prop} {first : GraphStore}

/-- The stored graphs that calls of a linker lead to while searches give such entities only. A call may be cut
off after any of its requests, and its failure does not keep others from being made. -/
inductive ReachNaming (linker : Linker) (named : String → Prop) (first : GraphStore) : GraphStore → Prop
  | start : ReachNaming linker named first first
  | next {call : LinkerCall} {rest : Program GraphRequest _ (Except StoreFailure Unit)}
      {before after : GraphStore} : ReachNaming linker named first before →
      (linker.perform call).run.Reaches (AnswersNaming named) before rest after →
      ReachNaming linker named first after

/-- Entities stay, and the edges that are added have one end that was stored and one that may be named. -/
structure Attached (named : String → Prop) (first store : GraphStore) : Prop where
  entities : store.entities = first.entities
  ends : ∀ e ∈ store.edges, e ∈ first.edges ∨
    (first.Stores e.source ∧ named e.target ∨ named e.source ∧ first.Stores e.target)

theorem attached_invariant :
    linker.Invariant first.Stores named (fun _ => True) (Attached named first) where
  stored store attached e member := ⟨e, attached.entities ▸ member, rfl⟩
  joined now store source target tag score attached different ends missing := by
    refine ⟨attached.entities, fun e member => ?_⟩
    rcases List.mem_append.mp member with old | new
    · exact attached.ends e old
    · cases List.mem_singleton.mp new
      exact .inr ends
  owned _ _ _ _ _ := trivial
  deleted _ _ attached _ := ⟨attached.entities, fun e member => attached.ends e (List.mem_filter.mp member).1⟩

theorem ReachNaming.attached {last : GraphStore} (reach : linker.ReachNaming named first last) :
    Attached named first last := by
  induction reach with
  | start => exact ⟨rfl, fun e member => .inl member⟩
  | next previous performed ih => exact (performed.keeps (attached_invariant.perform _) ih).1

namespace Attached

variable {store : GraphStore}

theorem stores_iff (attached : Attached named first store) (id : String) : store.Stores id ↔ first.Stores id := by
  rw [GraphStore.Stores, attached.entities, GraphStore.Stores]

theorem covered (attached : Attached named first store)
    (covered : first.entities = [] ∨ ∀ id, named id → first.Stores id) :
    ∀ e ∈ store.edges, e ∉ first.edges → first.Stores e.source ∧ first.Stores e.target := by
  intro e member new
  have ends := (attached.ends e member).resolve_left new
  rcases covered with none | all
  · -- There is no edge that is added, for one of its ends would be stored.
    have empty : ∀ id, ¬ first.Stores id := by
      intro id ⟨stored, among, _⟩
      exact List.not_mem_nil (none ▸ among)
    rcases ends with ⟨stored, -⟩ | ⟨-, stored⟩
    · exact absurd stored (empty e.source)
    · exact absurd stored (empty e.target)
  · rcases ends with ⟨stored, name⟩ | ⟨name, stored⟩
    · exact ⟨stored, all e.target name⟩
    · exact ⟨all e.source name, stored⟩

end Attached

/-- A linker reaches the state that a call leads to when all searches find one entity. -/
theorem reachNaming_run (linker : Linker) (call : LinkerCall) (first : GraphStore) {m : SimilarityMatch}
    (name : named m.entity) :
    linker.ReachNaming named first ((linker.perform call).runOn (fun _ => default) (fun _ => .ok [m]) first).2 := by
  refine .next .start (GraphTask.reaches_runAmid (fun moment request store => ⟨moment.respond_answers _ _ _, ?_⟩)
    _ first)
  cases request with
  | search terms =>
    unfold Moment.respond
    split
    · exact trivial
    · rw [GraphStore.respond_search]
      exact List.forall_mem_singleton.mpr name
  | _ => exact trivial

theorem apart_of_unused {edges : List Relationship} {tag : String} (unused : ∀ e ∈ edges, e.tag ≠ tag)
    (source target : String) : apart edges tag source target = true := by
  rw [apart, Bool.not_eq_true', ← Bool.not_eq_true]
  intro there
  obtain ⟨e, member, joins⟩ := List.any_eq_true.mp there
  simp only [GraphStore.joins, Bool.and_eq_true] at joins
  have same : tag = e.tag := by simpa using joins.2
  exact unused e member same.symm

theorem linksTo_single {edges : List Relationship} {tag id : String} {m : SimilarityMatch}
    (different : m.entity ≠ id) (missing : apart edges tag id m.entity = true) :
    linksTo edges tag id false 1 (distinctOthers id [m]) = [(id, m)] := by
  have alone : distinctOthers id [m] = [m] := by
    simp [← newMatches_self, newMatches, different]
  simp [alone, linksTo, visited, linksFor, newLink, missing]

/-- A search that finds an entity that is not stored makes an edge to it. -/
theorem exists_unstored_end (linker : Linker) {id other : String} (stored : first.Stores id) (name : named other)
    (unstored : ¬ first.Stores other) :
    ∃ last, linker.ReachNaming named first last ∧ ∃ e ∈ last.edges, e ∉ first.edges ∧ e.target = other := by
  obtain ⟨entity, known⟩ := stored.entity?
  -- With a tag that is new no earlier edge is in the way.
  obtain ⟨tag, nonempty, unused⟩ := first.exists_unused_tag
  let m : SimilarityMatch := ⟨other, .float 1.0, none⟩
  let similar : Similarity := fun _ => .ok [m]
  let call : LinkerCall := .linkNewEntity id (.float 0.75) 1 (some tag) false
  have different : other ≠ id := fun same => unstored (same ▸ stored)
  have asked : linker.tagOr (some tag) = tag := by
    rw [tagOr, Option.filter_some, if_pos (bne_iff_ne.mpr nonempty)]
    rfl
  have answer : similar { text := entity.searchText, limit := 1 + 1, threshold := .float 0.75 } = .ok [m] := rfl
  obtain ⟨made, run, joined⟩ := linkNewEntity_found linker (some tag) false (fun _ => default)
    known answer
  rw [asked, linksTo_single different (apart_of_unused unused id other)] at joined
  obtain ⟨edge, more, joins, -, rfl⟩ := List.forall₂_cons_left_iff.mp joined
  have performed : ((linker.perform call).runOn (fun _ => default) similar first).2.edges =
      first.edges ++ edge :: more := by
    have unfolded : linker.perform call =
        linker.linkNewEntity id (.float 0.75) 1 (some tag) false >>= fun _ => pure () := rfl
    rw [unfolded, GraphTask.runOn_bind, run]
    rfl
  refine ⟨_, reachNaming_run linker call first (m := m) name, edge, ?_, ?_, joins.target⟩
  · rw [performed]
    exact List.mem_append_right _ List.mem_cons_self
  · exact fun old => unused edge old joins.tag

/-- Whatever is asked of a linker, entities stay, and each new edge joins an entity that is stored and one that
a search may have named. So all new edges join stored entities if all that may be named are stored. If others
may be named and there is an entity to be linked, there is a run that makes an edge to one of them. -/
theorem reachNaming_stored_iff (linker : Linker) (named : String → Prop) (first : GraphStore) :
    (∀ last, linker.ReachNaming named first last → last.entities = first.entities ∧
        ∀ e ∈ last.edges, e ∉ first.edges →
          last.Stores e.source ∧ named e.target ∨ named e.source ∧ last.Stores e.target) ∧
      ((∀ last, linker.ReachNaming named first last →
          ∀ e ∈ last.edges, e ∉ first.edges → last.Stores e.source ∧ last.Stores e.target) ↔
        first.entities = [] ∨ ∀ id, named id → first.Stores id) := by
  refine ⟨fun last reach => ?_, fun joined => ?_, fun covered last reach e member new => ?_⟩
  · have attached := reach.attached
    refine ⟨attached.entities, fun e member new => ?_⟩
    rw [attached.stores_iff, attached.stores_iff]
    exact (attached.ends e member).resolve_left new
  · by_contra uncovered
    obtain ⟨nonempty, notAll⟩ := not_or.mp uncovered
    obtain ⟨other, unknown⟩ := not_forall.mp notAll
    obtain ⟨name, unstored⟩ := Classical.not_imp.mp unknown
    obtain ⟨entity, member⟩ := List.exists_mem_of_ne_nil _ nonempty
    obtain ⟨last, reach, e, added, new, target⟩ :=
      exists_unstored_end linker ⟨entity, member, rfl⟩ name unstored
    have stored : last.Stores other := target ▸ (joined last reach e added new).2
    exact unstored ((reach.attached.stores_iff other).mp stored)
  · rw [reach.attached.stores_iff, reach.attached.stores_iff]
    exact reach.attached.covered covered e member new

/-- The other entity is known to the search only. -/
theorem linkNewEntity_unstored_end :
    let store : GraphStore := { entities := [sampleEntity "a"] }
    let similar : Similarity := fun _ => .ok [⟨"ghost", .float 0.9, none⟩]
    let run := (({} : Linker).linkNewEntity "a").runOn (fun _ => default) similar store
    store.edges = [] ∧ run.1 = .ok 1 ∧ run.2.edges.map (fun e => (e.source, e.target)) = [("a", "ghost")] ∧
      run.2.Stores "a" ∧ ¬ run.2.Stores "ghost" :=
  ⟨rfl, by decide +kernel, by decide +kernel, by decide +kernel, by decide +kernel⟩

end Linker

end CodeGraph
