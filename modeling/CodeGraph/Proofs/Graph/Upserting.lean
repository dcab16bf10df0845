import CodeGraph.Proofs.Graph.Sound

namespace CodeGraph.GraphStore

/-- A call that stores an entity, with the time when it is made. -/
structure Upsert where
  now : DateTime
  entity : Entity

abbrev Upsert.name (call : Upsert) : String :=
  call.entity.qualifiedName

/-- The calls that have succeeded, and the stored graph that they led to. -/
structure Upserted where
  done : List Upsert := []
  store : GraphStore := .empty

/-- Makes one more call, whether it fails or not. -/
def Upserted.call (similar : Similarity) (state : Upserted) (call : Upsert) : Upserted :=
  let (answer, store) := state.store.respond call.now similar (.upsert call.entity)
  { done := if answer.isOk then state.done ++ [call] else state.done, store }

def upsertAll (similar : Similarity) (calls : List Upsert) : Upserted :=
  calls.foldl (Upserted.call similar) {}

/-- The names that calls stored entities under, in the order in which they came up. -/
def namesOf (done : List Upsert) : List String :=
  (done.map (·.name)).eraseDups

/-- An entity as calls left it: from the first call with its name it has the id and the time of creation, from the last
one all else. -/
structure Version (done : List Upsert) (name : String) (e : Entity) : Prop where
  made : ∃ first last, done.find? (·.name == name) = some first ∧ done.reverse.find? (·.name == name) = some last ∧
    e = { last.entity with id := first.entity.id, createdAt := first.entity.createdAt, updatedAt := last.now }

variable {done : List Upsert} {name : String} {e : Entity} {call : Upsert} {store : GraphStore} {similar : Similarity}

theorem Version.called (version : Version done name e) : e.qualifiedName = name := by
  obtain ⟨first, last, _, atLast, rfl⟩ := version.made
  have named : (last.name == name) = true := by simpa using List.find?_some atLast
  exact beq_iff_eq.mp named

theorem Version.other (version : Version done name e) (unlike : call.name ≠ name) :
    Version (done ++ [call]) name e := by
  obtain ⟨first, last, atFirst, atLast, made⟩ := version.made
  refine ⟨first, last, ?_, ?_, made⟩
  · rw [List.find?_append, atFirst]
    rfl
  · rw [List.reverse_append, List.reverse_singleton, List.singleton_append,
      List.find?_cons_of_neg (by simpa using unlike), atLast]

theorem find?_reverse_concat (done : List Upsert) (call : Upsert) :
    (done ++ [call]).reverse.find? (·.name == call.name) = some call := by
  simp

theorem Version.again (version : Version done call.name e) :
    Version (done ++ [call]) call.name (refresh call.now e call.entity) := by
  obtain ⟨first, last, atFirst, _, rfl⟩ := version.made
  refine ⟨first, call, ?_, find?_reverse_concat done call, rfl⟩
  rw [List.find?_append, atFirst]
  rfl

theorem Version.first (fresh : ∀ earlier ∈ done, earlier.name ≠ call.name) :
    Version (done ++ [call]) call.name { call.entity with updatedAt := call.now } := by
  refine ⟨call, call, ?_, find?_reverse_concat done call, rfl⟩
  have missing : done.find? (·.name == call.name) = none := by simpa [List.find?_eq_none] using fresh
  simp [List.find?_append, missing]

theorem mem_namesOf : name ∈ namesOf done ↔ ∃ earlier ∈ done, earlier.name = name := by
  rw [namesOf, List.mem_eraseDups, List.mem_map]

theorem namesOf_known (known : call.name ∈ namesOf done) : namesOf (done ++ [call]) = namesOf done := by
  obtain ⟨earlier, among, same⟩ := mem_namesOf.mp known
  have gone : ([call].map (·.name)).removeAll (done.map (·.name)) = [] := by
    simpa [List.removeAll] using ⟨earlier, among, same⟩
  rw [namesOf, List.map_append, List.eraseDups_append, gone]
  exact List.append_nil _

theorem namesOf_new (fresh : call.name ∉ namesOf done) : namesOf (done ++ [call]) = namesOf done ++ [call.name] := by
  have unlike : ∀ earlier ∈ done, earlier.name ≠ call.name := fun earlier among same =>
    fresh (mem_namesOf.mpr ⟨earlier, among, same⟩)
  have kept : ([call].map (·.name)).removeAll (done.map (·.name)) = [call.name] := by
    simpa [List.removeAll] using unlike
  rw [namesOf, List.map_append, List.eraseDups_append, kept]
  rfl

/-- Whether the store can hold the lines of an entity. -/
def linesFit (e : Entity) : Bool :=
  e.startLine.all fitsWord && e.endLine.all fitsWord

theorem respond_upsert (now : DateTime) (similar : Similarity) (new : Entity) (store : GraphStore) :
    store.respond now similar (.upsert new) =
      if linesFit new then
        match store.entityNamed? new.qualifiedName with
        | some old =>
          (.ok (refresh now old new), { store with entities := store.entities.map (refreshed now old new) })
        | none =>
          if (store.entity? new.id).isSome then (.error .idTaken, store)
          else (.ok { new with updatedAt := now },
            { store with entities := store.entities ++ [{ new with updatedAt := now }] })
      else (.error .outOfRange, store) := by
  cases fits : linesFit new with
  | false =>
    refine TableWork.transact_of_error (if_pos ?_)
    rw [← linesFit, fits]
    rfl
  | true =>
    have fitting : ¬ (!(new.startLine.all fitsWord && new.endLine.all fitsWord)) = true := by
      rw [← linesFit, fits]
      decide
    rw [if_pos rfl]
    cases named : store.entityNamed? new.qualifiedName with
    | some old =>
      refine TableWork.transact_of_ok ((if_neg fitting).trans ?_)
      rw [named]
      rfl
    | none =>
      cases taken : (store.entity? new.id).isSome with
      | true =>
        refine TableWork.transact_of_error ((if_neg fitting).trans ?_)
        rw [named]
        exact if_pos taken
      | false =>
        refine TableWork.transact_of_ok ((if_neg fitting).trans ?_)
        rw [named]
        exact if_neg (by rw [taken]; exact Bool.false_ne_true)

/-- The stored entities are those that the calls left. -/
structure Lists (done : List Upsert) (store : GraphStore) : Prop where
  sound : store.Sound
  names : store.entities.map (·.qualifiedName) = namesOf done
  versions : ∀ e ∈ store.entities, Version done e.qualifiedName e

theorem Lists.empty : Lists [] .empty :=
  ⟨.empty, rfl, fun _ member => nomatch member⟩

theorem Lists.known_iff (lists : Lists done store) :
    name ∈ namesOf done ↔ ∃ e ∈ store.entities, e.qualifiedName = name := by
  rw [← lists.names, List.mem_map]

theorem Lists.refreshed {old : Entity} (lists : Lists done store) (found : store.entityNamed? call.name = some old) :
    Lists (done ++ [call]) { store with entities := store.entities.map (refreshed call.now old call.entity) } := by
  obtain ⟨atOld, called⟩ := entityNamed_some found
  have known : call.name ∈ namesOf done := lists.known_iff.mpr ⟨old, atOld, called⟩
  refine ⟨lists.sound.step (.refreshed found), ?_, ?_⟩
  · rw [namesOf_known known, ← lists.names, List.map_map]
    exact List.map_congr_left fun e _ => refreshed_name call.now old call.entity e
  · rintro _ member
    obtain ⟨e, among, rfl⟩ := List.mem_map.mp member
    have version := lists.versions e among
    rw [refreshed_name]
    by_cases same : e.qualifiedName = call.name
    · have unique : old = e := List.inj_on_of_nodup_map lists.sound.names atOld among (called.trans same.symm)
      rw [GraphStore.refreshed, if_pos (beq_iff_eq.mpr same), unique]
      rw [same] at version ⊢
      exact version.again
    · rw [GraphStore.refreshed, if_neg (by simpa using same)]
      exact version.other (Ne.symm same)

theorem Lists.stored (lists : Lists done store) (unknown : store.entityNamed? call.name = none)
    (free : store.entity? call.entity.id = none) :
    Lists (done ++ [call])
      { store with entities := store.entities ++ [{ call.entity with updatedAt := call.now }] } := by
  have unlike := entityNamed_none.mp unknown
  have fresh : call.name ∉ namesOf done := fun known =>
    have ⟨e, among, same⟩ := lists.known_iff.mp known
    unlike e among same
  refine ⟨lists.sound.step (.stored unknown free), ?_, ?_⟩
  · rw [namesOf_new fresh, List.map_append, lists.names]
    rfl
  · intro e member
    rcases List.mem_append.mp member with old | new
    · exact (lists.versions e old).other (unlike e old).symm
    · cases List.mem_singleton.mp new
      exact .first fun earlier among same => fresh (mem_namesOf.mpr ⟨earlier, among, same⟩)

theorem Upserted.call_eq (similar : Similarity) (state : Upserted) (call : Upsert) :
    state.call similar call =
      if linesFit call.entity then
        match state.store.entityNamed? call.name with
        | some old => ⟨state.done ++ [call], { state.store with
            entities := state.store.entities.map (GraphStore.refreshed call.now old call.entity) }⟩
        | none =>
          if (state.store.entity? call.entity.id).isSome then state
          else ⟨state.done ++ [call], { state.store with
            entities := state.store.entities ++ [{ call.entity with updatedAt := call.now }] }⟩
      else state := by
  rw [Upserted.call, respond_upsert]
  cases linesFit call.entity with
  | false => rfl
  | true =>
    show _ = match state.store.entityNamed? call.entity.qualifiedName with | some old => _ | none => _
    cases state.store.entityNamed? call.entity.qualifiedName with
    | some old => rfl
    | none => cases state.store.entity? call.entity.id <;> rfl

theorem Lists.next {state : Upserted} (lists : Lists state.done state.store) (call : Upsert) :
    Lists (state.call similar call).done (state.call similar call).store := by
  rw [Upserted.call_eq]
  split
  · split
    · rename_i old found
      exact lists.refreshed found
    · rename_i unknown
      split
      · exact lists
      · rename_i free
        exact lists.stored unknown (by simpa using free)
  · exact lists

theorem upsertAll_lists (similar : Similarity) (calls : List Upsert) :
    Lists (upsertAll similar calls).done (upsertAll similar calls).store := by
  have from_state : ∀ state : Upserted, Lists state.done state.store →
      Lists (calls.foldl (Upserted.call similar) state).done (calls.foldl (Upserted.call similar) state).store := by
    induction calls with
    | nil => exact fun _ lists => lists
    | cons call rest ih => exact fun state lists => ih _ (lists.next call)
  exact from_state {} .empty

/-- However entities are stored, also under ids that others have: one is listed for each name that a call stored, in the
order in which the names came up. It has the id and the time of creation of the first call that stored the name, and all
else from the last one. A call fails, and changes nothing, if a line is out of range, or if the name is new and another
entity has the id; all others succeed. -/
theorem upserts_listed (similar : Similarity) (calls : List Upsert) (now : DateTime) (call : Upsert) :
    let state := upsertAll similar calls
    let names := (state.done.map (·.name)).eraseDups
    let answer := state.store.respond call.now similar (.upsert call.entity)
    ∃ listed : List Entity,
      state.store.respond now similar (.entitiesOfKinds [] none) = (.ok listed, state.store) ∧
      listed.map (·.qualifiedName) = names ∧
      (∀ e ∈ listed, ∃ first last, state.done.find? (·.name == e.qualifiedName) = some first ∧
        state.done.reverse.find? (·.name == e.qualifiedName) = some last ∧
        e = { last.entity with
          id := first.entity.id, createdAt := first.entity.createdAt, updatedAt := last.now }) ∧
      (linesFit call.entity = false → answer = (.error .outOfRange, state.store)) ∧
      (linesFit call.entity = true → call.name ∉ names → (∃ e ∈ listed, e.id = call.entity.id) →
        answer = (.error .idTaken, state.store)) ∧
      (linesFit call.entity = true → (call.name ∈ names ∨ ∀ e ∈ listed, e.id ≠ call.entity.id) →
        ∃ e, answer.1 = .ok e) := by
  intro state names answer
  have lists : Lists state.done state.store := upsertAll_lists similar calls
  have shown : state.store.respond now similar (.entitiesOfKinds [] none) =
      (.ok state.store.entities, state.store) := by
    have all : state.store.entitiesOfKinds [] none = .ok state.store.entities := by
      simp [entitiesOfKinds, limited]
    exact congrArg (·, state.store) all
  have answered : answer = _ := respond_upsert call.now similar call.entity state.store
  refine ⟨state.store.entities, shown, lists.names, fun e among => (lists.versions e among).made, ?_, ?_, ?_⟩
  · intro unfit
    rw [answered, unfit]
    rfl
  · rintro fits fresh ⟨e, among, taken⟩
    have unknown : state.store.entityNamed? call.name = none :=
      entityNamed_none.mpr fun other member same => fresh (lists.known_iff.mpr ⟨other, member, same⟩)
    have present : (state.store.entity? call.entity.id).isSome = true :=
      List.find?_isSome.mpr ⟨e, among, beq_iff_eq.mpr taken⟩
    rw [answered, fits, if_pos rfl, unknown]
    exact if_pos present
  · rintro fits either
    rw [answered, fits, if_pos rfl]
    cases found : state.store.entityNamed? call.entity.qualifiedName with
    | some old => exact ⟨_, rfl⟩
    | none =>
      have free : state.store.entity? call.entity.id = none := by
        rcases either with known | free
        · obtain ⟨other, member, same⟩ := lists.known_iff.mp known
          exact absurd same (entityNamed_none.mp found other member)
        · simpa [entity?, List.find?_eq_none] using free
      dsimp only
      rw [free]
      exact ⟨_, rfl⟩

def sampleCall (id name content : String) : Upsert where
  now := default
  entity := {
    id, kind := .concept, name, qualifiedName := name, content := some content, createdAt := default,
    updatedAt := default }

/-- The second call has a new name, but the id of the first one. The third has another id for the first name. -/
theorem upserts_listed_colliding :
    let similar : Similarity := fun _ => .ok []
    let calls := [sampleCall "a" "p" "one", sampleCall "a" "q" "two", sampleCall "b" "p" "three",
      sampleCall "b" "q" "four"]
    let call := sampleCall "b" "r" "five"
    let state := upsertAll similar calls
    ∃ listed : List Entity,
      state.store.respond default similar (.entitiesOfKinds [] none) = (.ok listed, state.store) ∧
      listed.map (fun e => (e.id, e.qualifiedName, e.content)) = [("a", "p", some "three"), ("b", "q", some "four")] ∧
      linesFit call.entity = true ∧ call.name ∉ (state.done.map (·.name)).eraseDups ∧
      (∃ e ∈ listed, e.id = call.entity.id) ∧
      state.store.respond call.now similar (.upsert call.entity) = (.error .idTaken, state.store) := by
  intro similar calls call state
  obtain ⟨listed, shown, names, versions, -, taken, -⟩ := upserts_listed similar calls default call
  have stored : state.store.entities = listed := Except.ok.inj (congrArg Prod.fst shown)
  have among : ∃ e ∈ listed, e.id = call.entity.id := by
    rw [← stored]
    decide +kernel
  have fits : linesFit call.entity = true := by decide +kernel
  have fresh : call.name ∉ (state.done.map (·.name)).eraseDups := by decide +kernel
  refine ⟨listed, shown, ?_, fits, fresh, among, taken fits fresh among⟩
  rw [← stored]
  decide +kernel

end CodeGraph.GraphStore
