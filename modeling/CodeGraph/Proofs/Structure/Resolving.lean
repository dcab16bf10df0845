import CodeGraph.Proofs.Structure.Writing

namespace CodeGraph

/-- Whether an entity can be made for a name does not depend on the time. -/
theorem Placeholder.entity_later {now : DateTime} (later : DateTime) {name : String}
    {tag filePath : Option String} {e : Entity} (made : entity now name tag filePath = .ok e) :
    ∃ other, entity later name tag filePath = .ok other := by
  have plain (time : DateTime) : (Entity.schema time).tidy (.obj (members name tag filePath)) =
      .obj (members name tag filePath) := rfl
  have read : (Entity.schema now).validate (.obj (members name tag filePath)) = .ok e := made
  obtain ⟨valid, -⟩ := (Schema.read_obj_eq_ok_iff (plain now)).mp (Schema.validate_eq_ok_iff.mp read)
  have readLater := (Schema.read_obj_eq_ok_iff (plain later)).mpr ⟨valid, rfl⟩
  exact ⟨_, Schema.validate_eq_ok_iff.mpr readLater⟩

theorem GraphTask.sound_runAmid {α : Type} {moments : ℕ → Moment} {similar : Similarity}
    {task : GraphTask α} {store after : GraphStore} {reply : Except StoreFailure α} (sound : store.Sound)
    (run : task.runAmid moments similar store = (reply, after)) : after.Sound := by
  have kept : (task.runAmid moments similar store).2.Sound := sound.runAmid _
  rwa [run] at kept

namespace Structure

open GraphStore (refreshed refreshed_name entityNamed_some entityNamed_none)

/-- The ids of stored entities, each with the name. -/
def keys (store : GraphStore) : List (String × String) :=
  store.entities.map fun e => (e.id, e.qualifiedName)

/-- The id and the name of the entity that is made for a name. -/
def placeholderKey (name : String) : String × String :=
  (Text.trimWhiteSpace (Placeholder.id name), Text.trimWhiteSpace name)

/-- Every name that has been met stands for an entity that is known by it without white space. -/
def Knows (store : GraphStore) (resolved : Resolved) : Prop :=
  ∀ entry ∈ resolved, (entry.2, Text.trimWhiteSpace entry.1) ∈ keys store

/-- The ids and names of some entities that were made for names that no stored entity had. -/
def Made (store : GraphStore) (names : List String) (added : List (String × String)) : Prop :=
  ∀ key ∈ added, ∃ n ∈ names, key = placeholderKey n ∧ Text.trimWhiteSpace n ∉ storedNames store

/-- Stored entities keep their ids and names, and what is added to them is made for some of the names. -/
def Grows (names : List String) (store after : GraphStore) : Prop :=
  ∃ added, keys after = keys store ++ added ∧ Made store names added

/-- A name is stored only if there is no white space at its ends. -/
def Plain (store : GraphStore) (name : String) : Prop :=
  name ∈ storedNames store → Text.trimWhiteSpace name = name

variable {now : DateTime} {store after : GraphStore} {name : String}

theorem mem_storedNames : name ∈ storedNames store ↔ ∃ id, (id, name) ∈ keys store := by
  simp [storedNames, keys]

theorem storedNames_eq (store : GraphStore) : storedNames store = (keys store).map (·.2) := by
  simp [storedNames, keys]

theorem entityNamed_key {e : Entity} (found : store.entityNamed? name = some e) :
    (e.id, name) ∈ keys store := by
  obtain ⟨member, rfl⟩ := entityNamed_some found
  exact List.mem_map_of_mem member

theorem entityNamed_of_mem (stored : name ∈ storedNames store) :
    ∃ e, store.entityNamed? name = some e := by
  by_contra! missing
  obtain ⟨e, member, same⟩ := List.mem_map.mp stored
  exact entityNamed_none.mp (Option.eq_none_iff_forall_ne_some.mpr missing) e member same

/-- A name is had by one entity. -/
theorem keys_unique (sound : store.Sound) {id other : String} (first : (id, name) ∈ keys store)
    (second : (other, name) ∈ keys store) : id = other := by
  obtain ⟨e, member, same⟩ := List.mem_map.mp first
  obtain ⟨e', member', same'⟩ := List.mem_map.mp second
  obtain ⟨rfl, named⟩ := Prod.mk.inj same
  obtain ⟨rfl, named'⟩ := Prod.mk.inj same'
  rw [List.inj_on_of_nodup_map sound.names member member' (named.trans named'.symm)]

theorem keys_nodup (sound : store.Sound) : (keys store).Nodup :=
  List.Nodup.of_map (·.2) (storedNames_eq store ▸ sound.names)

/-- Storing an entity again under a name that is known changes no id and no name. -/
theorem keys_refreshed (sound : store.Sound) {old new : Entity}
    (found : store.entityNamed? new.qualifiedName = some old) :
    keys { store with entities := store.entities.map (refreshed now old new) } = keys store := by
  simp only [keys, List.map_map]
  refine List.map_congr_left fun e member => ?_
  rw [Function.comp_apply, refreshed_name, sound.refreshed_id found member]

theorem Grows.refl (names : List String) (store : GraphStore) : Grows names store store :=
  ⟨[], (List.append_nil _).symm, nofun⟩

theorem Grows.of_keys (names : List String) (same : keys after = keys store) : Grows names store after :=
  ⟨[], by rw [same, List.append_nil], nofun⟩

theorem Grows.subset {names : List String} (grows : Grows names store after) :
    keys store ⊆ keys after := by
  obtain ⟨added, whole, -⟩ := grows
  exact whole ▸ List.subset_append_left _ _

theorem Grows.keeps_name {names : List String} (grows : Grows names store after)
    (stored : name ∈ storedNames store) : name ∈ storedNames after := by
  obtain ⟨id, key⟩ := mem_storedNames.mp stored
  exact mem_storedNames.mpr ⟨id, grows.subset key⟩

theorem Grows.trans {names others : List String} {last : GraphStore} (first : Grows names store after)
    (second : Grows others after last) : Grows (names ++ others) store last := by
  obtain ⟨added, whole, made⟩ := id first
  obtain ⟨more, whole', made'⟩ := second
  refine ⟨added ++ more, by rw [whole', whole, List.append_assoc], fun key member => ?_⟩
  rcases List.mem_append.mp member with old | new
  · obtain ⟨n, among, same, free⟩ := made key old
    exact ⟨n, List.mem_append_left _ among, same, free⟩
  · obtain ⟨n, among, same, free⟩ := made' key new
    exact ⟨n, List.mem_append_right _ among, same, fun stored => free (first.keeps_name stored)⟩

/-- The names of entities that are added have no white space at their ends. -/
theorem Grows.plain {names : List String} (grows : Grows names store after) (plain : Plain store name) :
    Plain after name := by
  intro stored
  obtain ⟨added, whole, made⟩ := grows
  obtain ⟨id, key⟩ := mem_storedNames.mp stored
  rcases List.mem_append.mp (whole ▸ key) with old | new
  · exact plain (mem_storedNames.mpr ⟨id, old⟩)
  · obtain ⟨source, -, same, -⟩ := made _ new
    obtain ⟨-, rfl⟩ := Prod.mk.inj same
    exact Text.trimWhiteSpace_trimWhiteSpace source

theorem Knows.mono {resolved : Resolved} (knows : Knows store resolved)
    (grows : keys store ⊆ keys after) : Knows after resolved :=
  fun entry member => grows (knows entry member)

theorem Knows.cons {resolved : Resolved} {id : String} (knows : Knows store resolved)
    (key : (id, Text.trimWhiteSpace name) ∈ keys store) : Knows store ((name, id) :: resolved) :=
  List.forall_mem_cons.mpr ⟨key, knows⟩

variable {span : Span} {tag filePath : Option String} {resolved next : Resolved}
  {reply : Except StoreFailure (String × Resolved)}

theorem Resolves.sound (resolves : Resolves span now store name tag filePath resolved reply after)
    (sound : store.Sound) : after.Sound := by
  cases resolves with
  | renewed _ unmet made named => exact sound.step (.refreshed named)
  | placed _ unmet made named free => exact sound.step (.stored named free)
  | met | found | taken | invalid | fault => exact sound

theorem placeholder_key {new : Entity} (made : Placeholder.entity now name tag filePath = .ok new) :
    (new.id, new.qualifiedName) = placeholderKey name := by
  rw [Placeholder.entity_eq_of_ok made]
  rfl

theorem Resolves.grows (resolves : Resolves span now store name tag filePath resolved reply after)
    (sound : store.Sound) : Grows [name] store after := by
  cases resolves with
  | renewed _ unmet made named => exact .of_keys _ (keys_refreshed sound named)
  | @placed time new _ unmet made named free =>
    have key := placeholder_key made
    have free : new.qualifiedName ∉ storedNames store := by
      simpa [storedNames] using entityNamed_none.mp named
    rw [(Prod.mk.inj key).2] at free
    refine ⟨[placeholderKey name], by simp [keys, ← key], fun k member => ?_⟩
    exact ⟨name, List.mem_singleton_self name, List.mem_singleton.mp member, free⟩
  | met | found | taken | invalid | fault => exact .refl _ _

/-- The id of a name that was resolved is the id of the stored entity that it stands for. -/
theorem Resolves.key {id : String}
    (resolves : Resolves span now store name tag filePath resolved (.ok (id, next)) after)
    (sound : store.Sound) (knows : Knows store resolved)
    (plain : Plain store name) :
    (id, Text.trimWhiteSpace name) ∈ keys after := by
  cases resolves with
  | met known =>
    obtain ⟨before, rest, whole, -⟩ := List.lookup_eq_some_iff.mp known
    exact knows (name, id) (by simp [whole])
  | found unmet stored =>
    have key := entityNamed_key stored
    rwa [plain (mem_storedNames.mpr ⟨_, key⟩)]
  | renewed _ unmet made named =>
    rw [keys_refreshed sound named, ← (Prod.mk.inj (placeholder_key made)).2]
    exact entityNamed_key named
  | @placed time new _ unmet made named free =>
    have trimmed : new.qualifiedName = Text.trimWhiteSpace name := (Prod.mk.inj (placeholder_key made)).2
    rw [← trimmed]
    exact List.mem_map.mpr ⟨{ new with updatedAt := time }, by simp, rfl⟩

theorem Resolves.knows {id : String}
    (resolves : Resolves span now store name tag filePath resolved (.ok (id, next)) after)
    (sound : store.Sound) (knows : Knows store resolved)
    (plain : Plain store name) : Knows after next := by
  have kept : Knows after resolved := knows.mono (resolves.grows sound).subset
  have key := resolves.key sound knows plain
  cases resolves with
  | met => exact kept
  | found | renewed | placed => exact kept.cons key

/-- Names are resolved again where all entities are stored that there were before, with the same names met
so far unless calls of the store have failed. -/
structure Again (span : Span) (before : GraphStore) (resolved : Resolved) (current : GraphStore)
    (others : Resolved) : Prop where
  sound : current.Sound
  knows : Knows current others
  met : ¬ span.faulty → others.map (·.1) = resolved.map (·.1)
  stored : keys before ⊆ keys current

variable {spanLater : Span} {id : String} {later : DateTime} {before current last : GraphStore} {others : Resolved}

/-- A name that is unknown when it is resolved again was unknown the first time. -/
theorem Again.unmet (again : Again spanLater before resolved current others) (orderly : ¬ spanLater.faulty)
    (grown : keys store ⊆ keys before) (unmet : Unmet current others name) : Unmet store resolved name := by
  refine ⟨?_, ?_⟩
  · rw [lookup_none_iff, ← again.met orderly]
    exact lookup_none_iff.mp unmet.unmet
  · by_contra stored
    obtain ⟨e, found⟩ := Option.ne_none_iff_exists'.mp stored
    have key := again.stored (grown (entityNamed_key found))
    obtain ⟨e', found'⟩ := entityNamed_of_mem (mem_storedNames.mpr ⟨_, key⟩)
    simp [unmet.unstored] at found'

/-- A failure changes nothing. -/
theorem Again.failed {failure : StoreFailure} (again : Again spanLater before resolved current others)
    (failed : Resolves spanLater later current name tag filePath others (.error failure) last)
    (isFaulty : spanLater.faulty) (met : Resolved) : Again spanLater before met last others := by
  cases failed <;> exact ⟨again.sound, again.knows, fun orderly => absurd isFaulty orderly, again.stored⟩

/-- No entity is added when a name is resolved for which one is stored. -/
theorem Resolves.keys_again (second : Resolves spanLater later current name tag filePath others reply last)
    (sound : current.Sound) (stored : Text.trimWhiteSpace name ∈ storedNames current) :
    keys last = keys current := by
  cases second with
  | met | found | taken | invalid | fault => rfl
  | renewed _ unmet made named => exact keys_refreshed sound named
  | placed _ unmet made named =>
    obtain ⟨e, found⟩ := entityNamed_of_mem stored
    rw [(Prod.mk.inj (placeholder_key made)).2, found] at named
    contradiction

/-- A name that has been resolved can be resolved again. -/
theorem Resolves.succeeds_again
    (first : Resolves span now store name tag filePath resolved (.ok (id, next)) after)
    (second : Resolves spanLater later current name tag filePath others reply last) (orderly : ¬ spanLater.faulty)
    (again : Again spanLater before resolved current others) (grown : keys store ⊆ keys before)
    (key : (id, Text.trimWhiteSpace name) ∈ keys before) : ∃ answer, reply = .ok answer := by
  cases second with
  | met | found | renewed | placed => exact ⟨_, rfl⟩
  | taken unmet made named =>
    obtain ⟨e, found⟩ := entityNamed_of_mem (mem_storedNames.mpr ⟨_, again.stored key⟩)
    rw [(Prod.mk.inj (placeholder_key made)).2, found] at named
    contradiction
  | fault failure isFaulty => exact absurd isFaulty orderly
  | invalid unmet refused =>
    have unmetBefore := again.unmet orderly grown unmet
    cases first with
    | met known => simp [unmetBefore.unmet] at known
    | found _ stored => simp [unmetBefore.unstored] at stored
    | renewed _ _ made | placed _ _ made =>
      obtain ⟨e, madeLater⟩ := Placeholder.entity_later later made
      rw [refused] at madeLater
      contradiction

/-- A name that is resolved again stands for the same entity, or the store is faulty. -/
theorem Resolves.again
    (first : Resolves span now store name tag filePath resolved (.ok (id, next)) after)
    (second : Resolves spanLater later current name tag filePath others reply last)
    (again : Again spanLater before resolved current others) (grown : keys store ⊆ keys before)
    (key : (id, Text.trimWhiteSpace name) ∈ keys before) (plain : Plain current name) :
    keys last = keys current ∧
      ((∃ more, reply = .ok (id, more) ∧ Again spanLater before next last more) ∨
        spanLater.faulty ∧ ∃ failure, reply = .error failure) := by
  have same := second.keys_again again.sound (mem_storedNames.mpr ⟨_, again.stored key⟩)
  refine ⟨same, ?_⟩
  cases reply with
  | error failure =>
    refine .inr ⟨by_contra fun orderly => ?_, failure, rfl⟩
    obtain ⟨_, succeeded⟩ := first.succeeds_again second orderly again grown key
    contradiction
  | ok answer =>
    have sound := second.sound again.sound
    have keyLast := second.key again.sound again.knows plain
    obtain rfl : answer.1 = id := keys_unique sound keyLast (same ▸ again.stored key)
    refine .inl ⟨answer.2, rfl, sound, second.knows again.sound again.knows plain, fun orderly => ?_,
      same ▸ again.stored⟩
    rw [second.names, first.names, again.met orderly]

end Structure

end CodeGraph
