import CodeGraph.Proofs.Linking.Relinking

namespace CodeGraph

namespace Linker

variable {store : GraphStore} {clock : ℕ → DateTime} {similar : Similarity} {source tag id : String}
  {skipExisting : Bool}

/-- Whether an edge with a tag leads away from an entity. -/
def hasLinks (edges : List Relationship) (tag id : String) : Bool :=
  edges.any fun e => e.source == id && e.tag == tag

/-- The matches with other entities to which no edge with a tag leads, the first with each. -/
def missing (edges : List Relationship) (tag id : String) (found : List SimilarityMatch) :
    List SimilarityMatch :=
  (distinctOthers id found).filter fun m => !edges.any (GraphStore.joins id m.entity (some tag))

/-- The matches that an entity is linked to, given what its search is answered with. -/
def newLinks (edges : List Relationship) (tag : String) (skipExisting : Bool) (id : String)
    (answer : Except StoreFailure (List SimilarityMatch)) : List SimilarityMatch :=
  if skipExisting && hasLinks edges tag id then []
  else match answer with
    | .error _ => []
    | .ok found => missing edges tag id found

theorem hasLinks_append {edges made : List Relationship} (others : ∀ e ∈ made, e.source ≠ id) :
    hasLinks (edges ++ made) tag id = hasLinks edges tag id := by
  have none : hasLinks made tag id = false := by
    simp only [hasLinks, List.any_eq_false, Bool.and_eq_true, beq_iff_eq, not_and]
    exact fun e member same => absurd same (others e member)
  rw [hasLinks, List.any_append]
  exact (congrArg (hasLinks edges tag id || ·) none).trans (Bool.or_false _)

theorem missing_append {edges made : List Relationship} {found : List SimilarityMatch}
    (others : ∀ e ∈ made, e.source ≠ id) :
    missing (edges ++ made) tag id found = missing edges tag id found := by
  refine List.filter_congr fun m _ => ?_
  have none : made.any (GraphStore.joins id m.entity (some tag)) = false := by
    simp only [List.any_eq_false, GraphStore.joins, Bool.and_eq_true, beq_iff_eq, not_and]
    exact fun e member same => absurd same.1 (others e member)
  rw [List.any_append, none, Bool.or_false]

/-- Edges that lead away from others do not change what an entity is linked to. -/
theorem newLinks_append {edges made : List Relationship}
    {answer : Except StoreFailure (List SimilarityMatch)} (others : ∀ e ∈ made, e.source ≠ id) :
    newLinks (edges ++ made) tag skipExisting id answer = newLinks edges tag skipExisting id answer := by
  unfold newLinks
  rw [hasLinks_append others]
  cases answer with
  | error failure => rfl
  | ok found => simp only [missing_append others]

/-- Linking to all matches is linking to as many as there are. -/
theorem linkAll_eq (clock : ℕ → DateTime) (found : List SimilarityMatch) (allowance : Int)
    (enough : found.length ≤ allowance) (store : GraphStore) :
    (linkAll source tag found).runOn clock similar store =
      (linkMatches source tag false allowance found).runOn clock similar store := by
  induction found generalizing clock allowance store with
  | nil => rfl
  | cons m rest ih =>
    rw [List.length_cons] at enough
    have left : ¬ allowance ≤ 0 := by omega
    unfold linkAll linkMatches
    simp only [left, if_false, GraphTask.runOn_bind, link_run, Bool.false_eq_true, GraphTask.runOn_pure,
      GraphTask.after_pure]
    by_cases present : store.hasEdge source m.entity (some tag) = true
    · simp [present, ih _ allowance (by omega)]
    · simp [present, ih _ (allowance - 1) (by omega)]

theorem linkAll_run (clock : ℕ → DateTime) (similar : Similarity) (tag id : String)
    (found : List SimilarityMatch) (store : GraphStore) :
    ∃ made, (linkAll id tag (distinctOthers id found)).runOn clock similar store =
        (.ok made.length, withEdges store made) ∧
      List.Forall₂ (Joins clock id tag) (missing store.edges tag id found) made := by
  have distinct : ((distinctOthers id found).map (·.entity)).Nodup :=
    newMatches_self id found ▸ newMatches_nodup [id] found
  have all : unlinked id tag (distinctOthers id found).length store.edges (distinctOthers id found) =
      missing store.edges tag id found :=
    List.take_of_length_le (by simpa using List.length_filter_le _ _)
  obtain ⟨made, run, -, links⟩ :=
    linkMatches_run clock similar id tag (distinctOthers id found).length distinct store
  exact ⟨made, (linkAll_eq clock _ _ le_rfl store).trans run, all ▸ links⟩

theorem candidates_run (entity : Entity) (limit : Int) (threshold : Number)
    (kinds : Option (List String)) : (candidates entity limit threshold kinds).runOn clock similar store =
      ((similar { text := entity.searchText, limit, threshold, kinds }).map (distinctOthers entity.id),
        store) := by
  unfold candidates
  rw [GraphTask.runOn_bind, GraphTask.runOn_search]
  cases similar { text := entity.searchText, limit, threshold, kinds } with
  | error failure => rfl
  | ok found => simp only [GraphTask.runOn_pure, newMatches_self, Except.map]

/-- Asking for one edge tells whether an entity has edges. -/
theorem firstLink_run (tag id : String) (store : GraphStore) :
    ∃ edges, store.edgesOf id .out [tag] none (some 1) = .ok edges ∧
      (edges = [] ↔ hasLinks store.edges tag id = false) := by
  have fits : fitsWord 1 = true := by decide
  have test : (fun e : Relationship => e.source == id && ([tag].isEmpty || [tag].contains e.tag)) =
      fun e => e.source == id && e.tag == tag := by
    funext e
    by_cases same : e.tag = tag <;> simp [same]
  refine ⟨(store.edges.filter fun e => e.source == id && e.tag == tag).take 1, ?_, ?_⟩
  · simp only [GraphStore.edgesOf, GraphStore.touches, limited, Option.all_some, fits, Option.all_none,
      Bool.and_true, if_true, test]
    rfl
  · simp [hasLinks]

/-- An entity is looked at before its turn only if what has edges is to be skipped. -/
theorem existing_run {β : Type} (clock : ℕ → DateTime) (similar : Similarity) (tag : String)
    (skipExisting : Bool) (id : String) (f : List Relationship → GraphTask β) (store : GraphStore) :
    ∃ (edges : List Relationship) (later : ℕ → DateTime),
      edges.isEmpty = !(skipExisting && hasLinks store.edges tag id) ∧ (∀ n, ∃ k, later n = clock k) ∧
      GraphTask.runOn clock similar (if skipExisting then GraphTask.edgesOf id .out [tag] none (some 1) >>= f
        else pure [] >>= f) store = (f edges).runOn later similar store := by
  obtain ⟨edges, asked, empty⟩ := firstLink_run tag id store
  cases skipExisting with
  | false => exact ⟨[], clock, rfl, fun n => ⟨n, rfl⟩, rfl⟩
  | true =>
    let ask := GraphTask.edgesOf id .out [tag] none (some 1)
    refine ⟨edges, ask.after clock similar store, ?_, GraphTask.after_mem clock similar ask store, ?_⟩
    · rw [Bool.true_and, Bool.eq_iff_iff, List.isEmpty_iff, empty, Bool.not_eq_true']
    · rw [if_pos rfl, GraphTask.runOn_bind, GraphTask.runOn_edgesOf, asked]

/-- The matches that entities are linked to, each beside the id of its entity, in the order in which the
edges are made. -/
def newPairs (edges : List Relationship) (tag : String) (skipExisting : Bool)
    (answer : Entity → Except StoreFailure (List SimilarityMatch)) (visited : List Entity) :
    List (String × SimilarityMatch) :=
  visited.flatMap fun e => (newLinks edges tag skipExisting e.id (answer e)).map (e.id, ·)

theorem joins_ends {pairs : List (String × SimilarityMatch)} {made : List Relationship}
    (links : List.Forall₂ (fun pair e => Joins clock pair.1 tag pair.2 e) pairs made) :
    made.map (fun e => (e.source, e.target)) = pairs.map fun pair => (pair.1, pair.2.entity) := by
  have same := congrArg (List.map fun e => (e.source, e.target)) (bare_pairs links)
  rw [List.map_map, List.map_map] at same
  exact same

theorem joins_ends_iff {pairs : List (String × SimilarityMatch)} {made : List Relationship}
    {target : String}
    (links : List.Forall₂ (fun pair e => Joins clock pair.1 tag pair.2 e) pairs made) :
    (∃ e ∈ made, e.source = source ∧ e.target = target) ↔
      ∃ pair ∈ pairs, pair.1 = source ∧ pair.2.entity = target := by
  have same : (source, target) ∈ made.map (fun e => (e.source, e.target)) ↔
      (source, target) ∈ pairs.map fun pair => (pair.1, pair.2.entity) := by rw [joins_ends links]
  simpa only [List.mem_map, Prod.mk.injEq] using same

theorem joins_tag {pairs : List (String × SimilarityMatch)} {made : List Relationship}
    (links : List.Forall₂ (fun pair e => Joins clock pair.1 tag pair.2 e) pairs made) :
    ∀ e ∈ made, e.tag = tag := by
  induction links with
  | nil => exact fun _ member => absurd member List.not_mem_nil
  | cons joins _ ih => exact List.forall_mem_cons.mpr ⟨joins.tag, ih⟩

/-- What visiting entities makes of a stored graph and of the totals. -/
structure Discovers (clock : ℕ → DateTime) (tag : String) (skipExisting : Bool)
    (answer : Entity → Except StoreFailure (List SimilarityMatch)) (visited : List Entity)
    (store : GraphStore) (result next : DiscoveryResult) (final : GraphStore)
    (made : List Relationship) : Prop where
  entities : final.entities = store.entities
  edges : final.edges = store.edges ++ made
  links : List.Forall₂ (fun pair e => Joins clock pair.1 tag pair.2 e)
    (newPairs store.edges tag skipExisting answer visited) made
  created : next.created = result.created + made.length
  skipped : next.skipped = result.skipped +
    visited.countP fun e => skipExisting && hasLinks store.edges tag e.id
  total : next.processed + next.skipped + next.warnings.length =
    result.processed + result.skipped + result.warnings.length + visited.length

section

variable {answer : Entity → Except StoreFailure (List SimilarityMatch)} {entity : Entity}
  {rest : List Entity} {result next : DiscoveryResult} {final : GraphStore} {made : List Relationship}

theorem Discovers.among {later : ℕ → DateTime} {visited : List Entity}
    (discovers : Discovers later tag skipExisting answer visited store result next final made)
    (among : ∀ n, ∃ k, later n = clock k) :
    Discovers clock tag skipExisting answer visited store result next final made :=
  { discovers with links := discovers.links.imp fun _ _ joins => joins.among among }

theorem Discovers.earlier {α : Type} {task : GraphTask α} {start : GraphStore} {visited : List Entity}
    (discovers : Discovers (task.after clock similar start) tag skipExisting answer visited store result next
      final made) : Discovers clock tag skipExisting answer visited store result next final made :=
  discovers.among (GraphTask.after_mem clock similar task start)

theorem Discovers.passedOver (old : (skipExisting && hasLinks store.edges tag entity.id) = true)
    (later : Discovers clock tag skipExisting answer rest store
      { result with skipped := result.skipped + 1 } next final made) :
    Discovers clock tag skipExisting answer (entity :: rest) store result next final made := by
  have none : newLinks store.edges tag skipExisting entity.id (answer entity) = [] := by
    unfold newLinks
    rw [if_pos old]
  obtain ⟨entities, edges, links, created, skipped, total⟩ := later
  refine ⟨entities, edges, ?_, created, ?_, ?_⟩
  · rw [newPairs, List.flatMap_cons, none]
    exact links
  · rw [List.countP_cons, if_pos old]
    dsimp only at skipped
    omega
  · rw [List.length_cons]
    dsimp only at total
    omega

theorem Discovers.failed {failure : StoreFailure} (warning : String)
    (turn : ¬ (skipExisting && hasLinks store.edges tag entity.id) = true)
    (fails : answer entity = .error failure)
    (later : Discovers clock tag skipExisting answer rest store
      { result with warnings := result.warnings ++ [warning] } next final made) :
    Discovers clock tag skipExisting answer (entity :: rest) store result next final made := by
  have none : newLinks store.edges tag skipExisting entity.id (answer entity) = [] := by
    unfold newLinks
    rw [if_neg turn, fails]
  obtain ⟨entities, edges, links, created, skipped, total⟩ := later
  refine ⟨entities, edges, ?_, created, ?_, ?_⟩
  · rw [newPairs, List.flatMap_cons, none]
    exact links
  · rw [List.countP_cons, if_neg turn]
    exact skipped
  · rw [List.length_append, List.length_singleton] at total
    rw [List.length_cons]
    dsimp only at total
    omega

theorem newPairs_append {edges made : List Relationship} {visited : List Entity}
    (others : ∀ e ∈ made, ∀ v ∈ visited, e.source ≠ v.id) :
    newPairs (edges ++ made) tag skipExisting answer visited =
      newPairs edges tag skipExisting answer visited := by
  refine List.flatMap_congr fun v member => ?_
  rw [newLinks_append fun e atE => others e atE v member]

/-- The edges made for one entity change nothing for those that come after it. -/
theorem Discovers.linked {found : List SimilarityMatch} {first : List Relationship}
    (turn : ¬ (skipExisting && hasLinks store.edges tag entity.id) = true)
    (succeeds : answer entity = .ok found) (unseen : entity.id ∉ rest.map (·.id))
    (joins : List.Forall₂ (Joins clock entity.id tag) (missing store.edges tag entity.id found) first)
    (later : Discovers clock tag skipExisting answer rest (withEdges store first)
      { result with created := result.created + first.length, processed := result.processed + 1 } next final
      made) :
    Discovers clock tag skipExisting answer (entity :: rest) store result next final (first ++ made) := by
  let chosen := missing store.edges tag entity.id found
  have mine : newLinks store.edges tag skipExisting entity.id (answer entity) = chosen := by
    unfold newLinks
    rw [if_neg turn, succeeds]
  have own : List.Forall₂ (fun pair e => Joins clock pair.1 tag pair.2 e) (chosen.map (entity.id, ·))
      first := List.forall₂_map_left_iff.mpr joins
  have sources : ∀ e ∈ first, e.source = entity.id := fun e member => by
    obtain ⟨pair, atPair, same, _⟩ := (joins_ends_iff own).mp ⟨e, member, rfl, rfl⟩
    obtain ⟨_, _, rfl⟩ := List.mem_map.mp atPair
    exact same.symm
  have others : ∀ e ∈ first, ∀ v ∈ rest, e.source ≠ v.id := fun e atE v atV same =>
    unseen (List.mem_map.mpr ⟨v, atV, same.symm.trans (sources e atE)⟩)
  obtain ⟨entities, edges, links, created, skipped, total⟩ := later
  refine ⟨entities, ?_, ?_, ?_, ?_, ?_⟩
  · rw [edges, withEdges, List.append_assoc]
  · rw [withEdges, newPairs_append others] at links
    rw [newPairs, List.flatMap_cons, mine]
    exact List.rel_append own links
  · rw [List.length_append]
    dsimp only at created
    omega
  · have same : rest.countP (fun v => skipExisting && hasLinks (store.edges ++ first) tag v.id) =
        rest.countP fun v => skipExisting && hasLinks store.edges tag v.id :=
      List.countP_congr fun v atV => by rw [hasLinks_append fun e atE => others e atE v atV]
    rw [List.countP_cons, if_neg turn, ← same]
    exact skipped
  · rw [List.length_cons]
    dsimp only at total
    omega

end

theorem discoverFrom_run (clock : ℕ → DateTime) (similar : Similarity) (tag : String) (skipExisting : Bool)
    (limit : Int) (threshold : Number) (kinds : Option (List String)) {visited : List Entity}
    (distinct : (visited.map (·.id)).Nodup) (store : GraphStore) (result : DiscoveryResult) :
    ∃ next final made,
      (discoverFrom tag skipExisting (fun e => candidates e limit threshold kinds) visited
        result).runOn clock similar store = (.ok next, final) ∧
      Discovers clock tag skipExisting
        (fun e => similar { text := e.searchText, limit, threshold, kinds }) visited store result next
        final made := by
  -- Over any store, as the rest is visited on what the first entity has made of it, and later.
  induction visited generalizing clock store result with
  | nil => exact ⟨result, store, [], rfl, rfl, by simp, .nil, by simp, by simp, by simp⟩
  | cons entity rest ih =>
    obtain ⟨unseen, distinct⟩ := List.nodup_cons.mp distinct
    unfold discoverFrom
    obtain ⟨edges, later, empty, among, looked⟩ := existing_run clock similar tag skipExisting entity.id
      (fun existing => _) store
    rw [looked, empty]
    by_cases old : (skipExisting && hasLinks store.edges tag entity.id) = true
    · obtain ⟨next, final, made, run, discovers⟩ :=
        ih later distinct store { result with skipped := result.skipped + 1 }
      rw [old]
      exact ⟨next, final, made, run, (discovers.among among).passedOver old⟩
    · rw [if_neg (by simpa using old), GraphTask.runOn_bind, GraphTask.runOn_attempt, candidates_run]
      cases answer : similar { text := entity.searchText, limit, threshold, kinds } with
      | error failure =>
        obtain ⟨next, final, made, run, discovers⟩ := ih _ distinct store _
        exact ⟨next, final, made, run, (discovers.earlier.among among).failed _ old answer⟩
      | ok found =>
        simp only [Except.map, GraphTask.runOn_bind]
        obtain ⟨first, linked, joins⟩ := linkAll_run _ similar tag entity.id found store
        rw [linked]
        obtain ⟨next, final, made, run, discovers⟩ := ih _ distinct (withEdges store first) _
        refine ⟨next, final, first ++ made, run, .linked old answer unseen ?_ ?_⟩
        · exact joins.imp fun _ _ joins => joins.earlier.among among
        · exact discovers.earlier.earlier.among among

theorem newMatches_iff {seen : List String} {target : String} (found : List SimilarityMatch) :
    (∃ m ∈ newMatches seen found, m.entity = target) ↔
      target ∉ seen ∧ ∃ m ∈ found, m.entity = target := by
  induction found generalizing seen with
  | nil => simp [newMatches]
  | cons m rest ih =>
    unfold newMatches
    by_cases old : seen.contains m.entity = true
    · rw [if_pos old, ih]
      have atSeen : m.entity ∈ seen := by simpa using old
      refine and_congr_right fun unseen => ?_
      have other : m.entity ≠ target := fun same => unseen (same ▸ atSeen)
      simp [other]
    · rw [if_neg old, List.exists_mem_cons_iff, List.exists_mem_cons_iff, ih]
      have new : m.entity ∉ seen := by simpa using old
      by_cases same : m.entity = target
      · simp [same, same ▸ new]
      · simp [same, Ne.symm same]

/-- The targets of the edges that are missing. -/
theorem missing_iff {edges : List Relationship} {target : String} {found : List SimilarityMatch} :
    (∃ m ∈ missing edges tag id found, m.entity = target) ↔
      (∃ m ∈ found, m.entity = target) ∧ target ≠ id ∧
        ¬ ∃ e ∈ edges, e.source = id ∧ e.target = target ∧ e.tag = tag := by
  have others : (∃ m ∈ distinctOthers id found, m.entity = target) ↔
      target ≠ id ∧ ∃ m ∈ found, m.entity = target := by
    rw [← newMatches_self, newMatches_iff, List.mem_singleton]
  have free : (!edges.any (GraphStore.joins id target (some tag))) = true ↔
      ¬ ∃ e ∈ edges, e.source = id ∧ e.target = target ∧ e.tag = tag := by
    rw [Bool.not_eq_true', ← Bool.not_eq_true]
    exact not_congr (@GraphStore.hasEdge_iff { edges } id target tag)
  calc (∃ m ∈ missing edges tag id found, m.entity = target)
      ↔ (∃ m ∈ distinctOthers id found, m.entity = target) ∧
          (!edges.any (GraphStore.joins id target (some tag))) = true := by
        simp only [missing, List.mem_filter]
        constructor
        · rintro ⟨m, ⟨member, unlinked⟩, rfl⟩
          exact ⟨⟨m, member, rfl⟩, unlinked⟩
        · rintro ⟨⟨m, member, rfl⟩, unlinked⟩
          exact ⟨m, ⟨member, unlinked⟩, rfl⟩
    _ ↔ _ := by rw [others, free]; tauto

theorem hasLinks_iff {edges : List Relationship} :
    hasLinks edges tag id = true ↔ ∃ e ∈ edges, e.source = id ∧ e.tag = tag := by
  simp [hasLinks]

/-- The ends of the edges that discovery makes. -/
theorem newPairs_iff {edges : List Relationship} {target : String} {visited : List Entity}
    {answer : Entity → Except StoreFailure (List SimilarityMatch)} :
    (∃ pair ∈ newPairs edges tag skipExisting answer visited, pair.1 = source ∧ pair.2.entity = target) ↔
      ∃ entity ∈ visited, entity.id = source ∧
        ¬ (skipExisting = true ∧ ∃ e ∈ edges, e.source = source ∧ e.tag = tag) ∧
        ∃ found, answer entity = .ok found ∧ (∃ m ∈ found, m.entity = target) ∧ target ≠ source ∧
          ¬ ∃ e ∈ edges, e.source = source ∧ e.target = target ∧ e.tag = tag := by
  have links (entity : Entity) :
      (∃ m ∈ newLinks edges tag skipExisting entity.id (answer entity), m.entity = target) ↔
        ¬ (skipExisting = true ∧ ∃ e ∈ edges, e.source = entity.id ∧ e.tag = tag) ∧
          ∃ found, answer entity = .ok found ∧ ∃ m ∈ missing edges tag entity.id found,
            m.entity = target := by
    rw [← hasLinks_iff, ← Bool.and_eq_true]
    unfold newLinks
    split
    · rename_i old
      simp [old]
    · rename_i turn
      cases answer entity <;> simp [turn]
  simp only [newPairs, List.mem_flatMap, List.mem_map]
  constructor
  · rintro ⟨_, ⟨entity, visited, m, member, rfl⟩, rfl, rfl⟩
    obtain ⟨turn, found, answered, wanted⟩ := (links entity).mp ⟨m, member, rfl⟩
    exact ⟨entity, visited, rfl, turn, found, answered, missing_iff.mp wanted⟩
  · rintro ⟨entity, visited, rfl, turn, found, answered, wanted⟩
    obtain ⟨m, member, rfl⟩ := (links entity).mpr ⟨turn, found, answered, missing_iff.mpr wanted⟩
    exact ⟨_, ⟨entity, visited, m, member, rfl⟩, rfl, rfl⟩

theorem missing_nodup (edges : List Relationship) (tag id : String) (found : List SimilarityMatch) :
    ((missing edges tag id found).map (·.entity)).Nodup := by
  have distinct : ((distinctOthers id found).map (·.entity)).Nodup :=
    newMatches_self id found ▸ newMatches_nodup [id] found
  exact distinct.sublist (List.filter_sublist.map _)

theorem newPairs_nodup {edges : List Relationship} {visited : List Entity}
    {answer : Entity → Except StoreFailure (List SimilarityMatch)}
    (distinct : (visited.map (·.id)).Nodup) :
    ((newPairs edges tag skipExisting answer visited).map fun pair =>
      (pair.1, pair.2.entity)).Nodup := by
  have one (entity : Entity) :
      ((newLinks edges tag skipExisting entity.id (answer entity)).map (·.entity)).Nodup := by
    unfold newLinks
    split
    · exact List.nodup_nil
    · split
      · exact List.nodup_nil
      · exact missing_nodup _ _ _ _
  induction visited with
  | nil => exact List.nodup_nil
  | cons entity rest ih =>
    obtain ⟨unseen, distinct⟩ := List.nodup_cons.mp distinct
    rw [newPairs, List.flatMap_cons, List.map_append, List.nodup_append]
    refine ⟨?_, ih distinct, ?_⟩
    · have paired := (one entity).map (f := fun target => (entity.id, target))
        fun _ _ same => (Prod.mk.inj same).2
      rw [List.map_map] at paired ⊢
      exact paired
    · rintro _ here _ later rfl
      simp only [List.mem_map, List.mem_flatMap] at here later
      obtain ⟨_, ⟨_, _, rfl⟩, rfl⟩ := here
      obtain ⟨_, ⟨other, member, _, _, rfl⟩, same⟩ := later
      exact unseen (List.mem_map.mpr ⟨other, member, (Prod.mk.inj same).1⟩)

theorem discover_run (linker : Linker) (threshold : Number) (perEntity : Int) (kinds : List String)
    (tag : Option String) (skipExisting : Bool) (clock : ℕ → DateTime) (similar : Similarity)
    (store : GraphStore) :
    ∃ later : ℕ → DateTime, (∀ n, ∃ k, later n = clock k) ∧
      (linker.discover threshold perEntity kinds tag skipExisting).runOn clock similar store =
        (discoverFrom (linker.tagOr tag) skipExisting
          (fun e => candidates e (perEntity + 1) threshold (some kinds))
          (store.entities.filter fun e => kinds.isEmpty || kinds.contains e.kind.name) {}).runOn later
            similar store := by
  let ask := GraphTask.entitiesOfKinds kinds
  refine ⟨ask.after clock similar store, GraphTask.after_mem clock similar ask store, ?_⟩
  unfold discover
  rw [GraphTask.runOn_bind]
  rfl

/-- An edge that a second visit makes leads away from an entity that the first one passed over. -/
theorem newPairs_again {edges made : List Relationship} {visited : List Entity}
    {answer : Entity → Except StoreFailure (List SimilarityMatch)}
    (links : List.Forall₂ (fun pair e => Joins clock pair.1 tag pair.2 e)
      (newPairs edges tag skipExisting answer visited) made)
    {pair : String × SimilarityMatch}
    (member : pair ∈ newPairs (edges ++ made) tag false answer visited) :
    skipExisting = true ∧ ∃ e ∈ edges, e.source = pair.1 ∧ e.tag = tag := by
  obtain ⟨entity, atEntity, same, _, found, answered, wanted, other, free⟩ :=
    newPairs_iff.mp ⟨pair, member, rfl, rfl⟩
  -- An entity that had its turn was linked to this match already, and its edge is among those made.
  by_contra turn
  have wasWanted : ∃ earlier ∈ newPairs edges tag skipExisting answer visited,
      earlier.1 = pair.1 ∧ earlier.2.entity = pair.2.entity := by
    refine newPairs_iff.mpr ⟨entity, atEntity, same, turn, found, answered, wanted, other, ?_⟩
    rintro ⟨e, old, joins⟩
    exact free ⟨e, List.mem_append_left _ old, joins⟩
  obtain ⟨e, atMade, source, target⟩ := (joins_ends_iff links).mpr wasWanted
  exact free ⟨e, List.mem_append_right _ atMade, source, target, joins_tag links e atMade⟩

section

variable {later : ℕ → DateTime} {answer : Entity → Except StoreFailure (List SimilarityMatch)}
  {visited order : List Entity} {result again other : DiscoveryResult} {final last : GraphStore}
  {made more added : List Relationship}

/-- Whatever the order of visits, the same edges are made. -/
theorem Discovers.perm (once : Discovers clock tag skipExisting answer visited store {} result final made)
    (reordered : Discovers clock tag skipExisting answer order store {} other last added)
    (perm : order.Perm visited) : (added.map bare).Perm (made.map bare) := by
  rw [bare_pairs reordered.links, bare_pairs once.links]
  exact (perm.flatMap_right _).map _

theorem Discovers.again_source
    (once : Discovers clock tag skipExisting answer visited store {} result final made)
    (twice : Discovers later tag false answer visited final {} again last more) :
    ∀ e ∈ more, ∃ entity ∈ visited, entity.id = e.source ∧ skipExisting = true ∧
      ∃ old ∈ store.edges, old.source = e.source ∧ old.tag = tag := by
  intro e member
  obtain ⟨pair, atPair, source, _⟩ := (joins_ends_iff twice.links).mp ⟨e, member, rfl, rfl⟩
  obtain ⟨entity, atEntity, same, _⟩ := newPairs_iff.mp ⟨pair, atPair, rfl, rfl⟩
  rw [once.edges] at atPair
  exact ⟨entity, atEntity, same.trans source, source ▸ newPairs_again once.links atPair⟩

/-- Where nothing was skipped, nothing is left for a second visit. -/
theorem Discovers.again_nothing
    (once : Discovers clock tag skipExisting answer visited store {} result final made)
    (twice : Discovers later tag false answer visited final {} again last more)
    (skippedNone : result.skipped = 0) : more = [] := by
  have none : ∀ entity ∈ visited, ¬ (skipExisting && hasLinks store.edges tag entity.id) = true :=
    List.countP_eq_zero.mp (by simpa [skippedNone] using once.skipped.symm)
  refine List.eq_nil_iff_forall_not_mem.mpr fun e member => ?_
  obtain ⟨entity, atEntity, same, skip, linked⟩ := once.again_source twice e member
  exact none entity atEntity (by rw [skip, Bool.true_and, hasLinks_iff, same]; exact linked)

end

/-- Discovery makes an edge from each entity of the kinds asked for to each of the other entities that
its search finds and to which no edge with the tag leads yet, if the search does not fail and the entity
is not to be skipped. Each entity is counted once, whether it is processed, is skipped, or has a search
that fails. The order in which entities are visited does not matter. Discovering once more without
skipping makes edges only from entities that were skipped. -/
theorem discover_adds (linker : Linker) (threshold : Number) (perEntity : Int) (kinds : List String)
    (named : Option String) (skipExisting : Bool) (similar : Similarity) (clock later : ℕ → DateTime)
    (sound : store.Sound) :
    let tag := linker.tagOr named
    let selected := store.entities.filter fun e => kinds.isEmpty || kinds.contains e.kind.name
    let answer := fun e : Entity =>
      similar { text := e.searchText, limit := perEntity + 1, threshold, kinds := some kinds }
    let visit := fun order => (discoverFrom tag skipExisting
      (fun e => candidates e (perEntity + 1) threshold (some kinds)) order {}).runOn clock similar store
    ∃ result final made,
      (linker.discover threshold perEntity kinds named skipExisting).runOn clock similar store =
        (.ok result, final) ∧
      final.entities = store.entities ∧ final.edges = store.edges ++ made ∧
      (∀ source target, (∃ e ∈ made, e.source = source ∧ e.target = target) ↔
        ∃ entity ∈ selected, entity.id = source ∧
          ¬ (skipExisting = true ∧ ∃ e ∈ store.edges, e.source = source ∧ e.tag = tag) ∧
          ∃ found, answer entity = .ok found ∧ (∃ m ∈ found, m.entity = target) ∧ target ≠ source ∧
            ¬ ∃ e ∈ store.edges, e.source = source ∧ e.target = target ∧ e.tag = tag) ∧
      (made.map fun e => (e.source, e.target)).Nodup ∧ (∀ e ∈ made, e.tag = tag) ∧
      result.created = made.length ∧
      result.processed + result.skipped + result.warnings.length = selected.length ∧
      (∀ order : List Entity, order.Perm selected → ∃ other last added,
        visit order = (.ok other, last) ∧ last.edges = store.edges ++ added ∧
        (added.map bare).Perm (made.map bare)) ∧
      ∃ again last more,
        (linker.discover threshold perEntity kinds named false).runOn later similar final =
          (.ok again, last) ∧
        last.entities = final.entities ∧ last.edges = final.edges ++ more ∧
        again.created = more.length ∧
        (∀ e ∈ more, skipExisting = true ∧ ∃ old ∈ store.edges, old.source = e.source ∧ old.tag = tag) ∧
        (result.skipped = 0 → more = []) := by
  intro tag selected answer visit
  have distinct : (selected.map (·.id)).Nodup :=
    sound.entityIds.sublist (List.filter_sublist.map _)
  obtain ⟨_, started, discovers⟩ :=
    discover_run linker threshold perEntity kinds named skipExisting clock similar store
  obtain ⟨result, final, made, run, visits⟩ := discoverFrom_run _ similar tag skipExisting
    (perEntity + 1) threshold (some kinds) distinct store {}
  have once := visits.among started
  have selectedAgain : final.entities.filter (fun e => kinds.isEmpty || kinds.contains e.kind.name) =
      selected := by rw [once.entities]
  obtain ⟨_, startedAgain, discoversAgain⟩ :=
    discover_run linker threshold perEntity kinds named false later similar final
  obtain ⟨again, last, more, runAgain, visitsAgain⟩ := discoverFrom_run _ similar tag false
    (perEntity + 1) threshold (some kinds) distinct final {}
  have twice := visitsAgain.among startedAgain
  have found := discovers.trans run
  have foundAgain := discoversAgain.trans (selectedAgain ▸ runAgain)
  refine ⟨result, final, made, found, once.entities, once.edges, ?_, ?_, joins_tag once.links, ?_,
    ?_, ?_, again, last, more, foundAgain, twice.entities, twice.edges, ?_, ?_, ?_⟩
  · intro source target
    rw [joins_ends_iff once.links, newPairs_iff]
  · rw [joins_ends once.links]
    exact newPairs_nodup distinct
  · simpa using once.created
  · simpa using once.total
  · intro order perm
    have distinctOrder : (order.map (·.id)).Nodup := (perm.map _).nodup_iff.mpr distinct
    obtain ⟨other, last, added, runOther, visited⟩ := discoverFrom_run clock similar tag skipExisting
      (perEntity + 1) threshold (some kinds) distinctOrder store {}
    exact ⟨other, last, added, runOther, visited.edges, once.perm visited perm⟩
  · simpa using twice.created
  · intro e member
    obtain ⟨_, _, _, skipped⟩ := once.again_source twice e member
    exact skipped
  · exact once.again_nothing twice

/-- Three entities, one of which an author has joined to another one. -/
def authoredSample : GraphStore :=
  let requests : List GraphRequest := [.upsert (sampleEntity "a"), .upsert (sampleEntity "b"),
    .upsert (sampleEntity "c"), .create "a" "b" "RELATES_TO" 1.0 []]
  GraphStore.serve (requests.map fun request => ⟨default, fun _ => .ok [], request⟩) .empty

theorem authoredSample_sound : authoredSample.Sound :=
  GraphStore.Sound.empty.serve _

/-- An entity that is skipped keeps its similar entities for a later visit without skipping. -/
theorem discover_again_creates :
    let discover := fun skipExisting => (({} : Linker).discover (.float 0.5) 5 linkedKinds none
      skipExisting).runOn (fun _ => default) sampleSimilarity
    let once := discover true authoredSample
    let twice := discover false once.2
    twice.1.toOption.map (·.created) = some 1 ∧
      twice.2.edges.map (fun e => (e.source, e.target)) =
        once.2.edges.map (fun e => (e.source, e.target)) ++ [("a", "c")] := by
  decide +kernel

theorem discover_adds_authoredSample :
    authoredSample.Sound ∧ ∃ result final made,
      (({} : Linker).discover (.float 0.5) 5 linkedKinds none true).runOn (fun _ => default) sampleSimilarity
        authoredSample = (.ok result, final) ∧
      final.edges = authoredSample.edges ++ made ∧ result.created = made.length ∧
      result.processed + result.skipped + result.warnings.length = 3 ∧
      (∃ e ∈ made, e.source = "b" ∧ e.target = "a") ∧ ¬ ∃ e ∈ made, e.source = "a" ∧ e.target = "c" := by
  obtain ⟨result, final, made, run, _, edges, ends, _, _, created, total, _⟩ := discover_adds {}
    (.float 0.5) 5 linkedKinds none true sampleSimilarity (fun _ => default) (fun _ => default)
    authoredSample_sound
  have selected : ∃ e ∈ authoredSample.entities.filter fun e =>
      linkedKinds.isEmpty || linkedKinds.contains e.kind.name, e.id = "b" := by decide +kernel
  obtain ⟨entity, member, id⟩ := selected
  refine ⟨authoredSample_sound, result, final, made, run, edges, created, total, (ends "b" "a").mpr ?_,
    fun joined => ?_⟩
  · exact ⟨entity, member, id, by decide +kernel, _, rfl, ⟨_, List.mem_cons_self, rfl⟩, by decide,
      by decide +kernel⟩
  · obtain ⟨_, _, _, turn, _⟩ := (ends "a" "c").mp joined
    exact turn (by decide +kernel)

end Linker

end CodeGraph
