import CodeGraph.Proofs.Schema.Dumps
import CodeGraph.Proofs.Structure.Steps
import CodeGraph.Proofs.Text.Trimming

namespace CodeGraph

/-- The name of an entity has no white space at its ends. -/
def Entity.IsTrimmed (e : Entity) : Prop :=
  Text.trimWhiteSpace e.qualifiedName = e.qualifiedName

theorem Entity.identifier_trimmed {value : Json} {s : String} (read : identifier value = .ok s) :
    Text.trimWhiteSpace s = s := by
  cases value with
  | str given =>
    rw [identifier_str] at read
    split at read
    · cases read
    · cases read
      exact Text.trimWhiteSpace_trimWhiteSpace given
  | _ => cases read

theorem isTrimmed_of_read {now : DateTime} {value : Json} {e : Entity}
    (read : (Entity.schema now).read value = .ok e) : e.IsTrimmed := by
  have start : (Entity.schema now).initial.IsTrimmed := by
    change Text.trimWhiteSpace "" = ""
    decide
  have tidy : (Entity.schema now).tidy = id := rfl
  refine Schema.read_preserves tidy start ?_ read
  simp only [Entity.schema, List.forall_mem_cons]
  exact ⟨.required fun _ _ _ _ => id, .required fun _ _ _ _ => id, .required fun _ _ _ _ => id,
    .required fun _ _ given _ _ => Entity.identifier_trimmed given, .optional fun _ _ _ _ => id,
    .optional fun _ _ _ _ => id, .optional fun _ _ _ _ => id, .optional fun _ _ _ _ => id,
    .optional fun _ _ _ _ => id, .optional fun _ _ _ _ => id, .optional fun _ _ _ _ => id,
    .optional fun _ _ _ _ => id, List.forall_mem_nil _⟩

namespace GraphStore

variable {now : DateTime} {store next : GraphStore}

theorem upsert_isTrimmed {new entity : Entity} (trimmed : ∀ e ∈ store.entities, e.IsTrimmed)
    (given : new.IsTrimmed) (run : store.upsert now new = .ok (entity, next)) :
    ∀ e ∈ next.entities, e.IsTrimmed := by
  unfold upsert at run
  split at run
  · simp at run
  split at run
  · rename_i old found
    cases run
    refine List.forall_mem_map.mpr fun e member => ?_
    have same : (refreshed now old new e).qualifiedName = e.qualifiedName := refreshed_name now old new e
    exact (congrArg Text.trimWhiteSpace same).trans ((trimmed e member).trans same.symm)
  split at run
  · simp at run
  · cases run
    intro e member
    rcases List.mem_append.mp member with old | added
    · exact trimmed e old
    · cases List.mem_singleton.mp added
      exact given

theorem create_entities (now : DateTime) (similar : Similarity) (source target tag : String) (weight : Float)
    (metadata : Members) (store : GraphStore) :
    (store.respond now similar (.create source target tag weight metadata)).2.entities = store.entities := by
  rcases create_answers now similar store source target tag weight metadata with ⟨failure, failed⟩ | bounds
  · rw [failed]
  · rw [respond_create now similar source target tag weight metadata store bounds]
    split <;> rfl

theorem respond_isTrimmed {similar : Similarity} {request : GraphRequest}
    (trimmed : ∀ e ∈ store.entities, e.IsTrimmed) (given : ∀ new, request = .upsert new → new.IsTrimmed) :
    ∀ e ∈ (store.respond now similar request).2.entities, e.IsTrimmed := by
  cases request with
  | upsert new =>
    rcases upsert_answers now similar store new with ⟨failure, failed⟩ | ⟨entity, next, run, answered⟩
    · rw [failed]
      exact trimmed
    · rw [answered]
      exact upsert_isTrimmed trimmed (given new rfl) run
  | create source target tag weight metadata =>
    rw [create_entities]
    exact trimmed
  | delete => exact trimmed
  | _ =>
    rw [respond_reads rfl]
    exact trimmed

/-- Names stay without white space at their ends, whatever is asked of the stored graph. -/
theorem serve_isTrimmed {services : List Service} (trimmed : ∀ e ∈ store.entities, e.IsTrimmed)
    (given : ∀ service ∈ services, ∀ new, service.request = .upsert new → new.IsTrimmed) :
    ∀ e ∈ (serve services store).entities, e.IsTrimmed := by
  induction services generalizing store with
  | nil => exact trimmed
  | cons service rest ih =>
    obtain ⟨first, others⟩ := List.forall_mem_cons.mp given
    exact ih (respond_isTrimmed trimmed first) others

end GraphStore

end CodeGraph
