import CodeGraph.Proofs.Graph.Moments
import CodeGraph.Proofs.Linking.Frame

namespace CodeGraph

namespace Linker

open GraphStore (nextEdge)

variable {store : GraphStore} {clock : ℕ → DateTime} {similar : Similarity} {source tag : String}

/-- Matches with other entities than one, the first with each. -/
def distinctOthers (id : String) (found : List SimilarityMatch) : List SimilarityMatch :=
  (found.filter (·.entity != id)).eraseDupsBy fun m other => m.entity == other.entity

theorem newMatches_eq (seen : List String) (found : List SimilarityMatch) :
    newMatches seen found =
      (found.filter fun m => !seen.contains m.entity).eraseDupsBy
        fun m other => m.entity == other.entity := by
  induction found generalizing seen with
  | nil => rfl
  | cons m rest ih =>
    unfold newMatches
    by_cases old : seen.contains m.entity = true
    · rw [if_pos old, ih, List.filter_cons_of_neg (by simpa using old)]
    · rw [if_neg old, ih, List.filter_cons_of_pos (by simpa using old), List.eraseDupsBy_cons,
        List.filter_filter]
      congr 2
      refine List.filter_congr fun other _ => ?_
      by_cases same : other.entity = m.entity <;> simp [same]

theorem newMatches_self (id : String) (found : List SimilarityMatch) :
    newMatches [id] found = distinctOthers id found := by
  rw [newMatches_eq, distinctOthers]
  congr 2
  funext m
  by_cases same : m.entity = id <;> simp [same]

theorem newMatches_nodup (seen : List String) (found : List SimilarityMatch) :
    ((newMatches seen found).map (·.entity)).Nodup := by
  induction found generalizing seen with
  | nil => exact List.nodup_nil
  | cons m rest ih =>
    unfold newMatches
    split
    · exact ih seen
    · rw [List.map_cons, List.nodup_cons]
      refine ⟨fun again => ?_, ih _⟩
      obtain ⟨other, member, same⟩ := List.mem_map.mp again
      exact newMatches_unseen member (by simp [same])

/-- An edge made for a match, at one of the times. -/
structure Joins (clock : ℕ → DateTime) (source tag : String) (m : SimilarityMatch) (edge : Relationship) :
    Prop where
  source : edge.source = source
  target : edge.target = m.entity
  tag : edge.tag = tag
  weight : edge.weight = Similarity.weight m.score
  metadata : edge.metadata = discovered m.score
  createdAt : ∃ n, edge.createdAt = clock n

/-- An edge made at one of some times is made at one of all times. -/
theorem Joins.among {later : ℕ → DateTime} {m : SimilarityMatch} {edge : Relationship}
    (joins : Joins later source tag m edge) (among : ∀ n, ∃ k, later n = clock k) :
    Joins clock source tag m edge := by
  obtain ⟨n, made⟩ := joins.createdAt
  obtain ⟨k, same⟩ := among n
  exact { joins with createdAt := ⟨k, made.trans same⟩ }

/-- An edge made after a task is made at one of all times. -/
theorem Joins.earlier {α : Type} {task : GraphTask α} {m : SimilarityMatch} {edge : Relationship}
    (joins : Joins (task.after clock similar store) source tag m edge) : Joins clock source tag m edge :=
  joins.among (GraphTask.after_mem clock similar task store)

/-- The stored graph with more edges, each of which has been given an id. -/
def withEdges (store : GraphStore) (made : List Relationship) : GraphStore :=
  { store with edges := store.edges ++ made, issued := store.issued + made.length }

@[simp] theorem withEdges_nil (store : GraphStore) : withEdges store [] = store := by
  simp [withEdges]

theorem withEdges_withEdges (store : GraphStore) (first second : List Relationship) :
    withEdges (withEdges store first) second = withEdges store (first ++ second) := by
  simp [withEdges, Nat.add_assoc]

/-- Edges have ids that are given out after so many. -/
def Fresh (issued : ℕ) (made : List Relationship) : Prop :=
  ∀ edge ∈ made, ∃ serial, issued ≤ serial ∧ edge.id = GraphStore.edgeId serial

theorem Fresh.append {issued : ℕ} {first second : List Relationship} (fresh : Fresh issued first)
    (more : Fresh (issued + first.length) second) : Fresh issued (first ++ second) := by
  intro edge member
  rcases List.mem_append.mp member with old | new
  · exact fresh edge old
  · obtain ⟨serial, later, id⟩ := more edge new
    exact ⟨serial, (Nat.le_add_right _ _).trans later, id⟩

theorem Fresh.ne {made : List Relationship} (fresh : Fresh store.issued made) (sound : store.Sound) :
    ∀ edge ∈ made, ∀ old ∈ store.edges, edge.id ≠ old.id := by
  intro edge member old atOld sameId
  obtain ⟨serial, later, atEdge⟩ := fresh edge member
  exact sound.fresh old atOld serial later (sameId.symm.trans atEdge)

theorem link_run (clock : ℕ → DateTime) (similar : Similarity) (source target tag : String)
    (score : Number) (store : GraphStore) :
    (link source target tag score).runOn clock similar store =
      if store.hasEdge source target (some tag) then (.ok false, store)
      else (.ok true, withEdges store
        [store.nextEdge (clock 1) source target tag (Similarity.weight score) (discovered score)]) := by
  have created := store.respond_create (clock 1) similar source target tag (Similarity.weight score)
    (discovered score) (Similarity.weight_mem score)
  unfold link
  rw [GraphTask.runOn_bind, GraphTask.runOn_hasEdge]
  by_cases present : store.hasEdge source target (some tag) = true
  · simp [present]
  · rw [if_neg present] at created ⊢
    dsimp only
    rw [if_neg present, GraphTask.runOn_bind, GraphTask.runOn_create, GraphTask.after_hasEdge, created]
    rfl

/-- The matches that no edge leads to yet, as far as the allowance goes. -/
def unlinked (source tag : String) (allowance : Int) (edges : List Relationship)
    (found : List SimilarityMatch) : List SimilarityMatch :=
  (found.filter fun m => !edges.any (GraphStore.joins source m.entity (some tag))).take allowance.toNat

theorem unlinked_cons_of_joined {m : SimilarityMatch} {rest : List SimilarityMatch}
    {allowance : Int} (present : store.hasEdge source m.entity (some tag) = true) :
    unlinked source tag allowance store.edges (m :: rest) =
      unlinked source tag allowance store.edges rest := by
  rw [unlinked, List.filter_cons_of_neg (by simpa [GraphStore.hasEdge] using present), unlinked]

/-- Among different matches, an edge made for one does not keep others from being linked. -/
theorem unlinked_cons_of_free {m : SimilarityMatch} {rest : List SimilarityMatch} {allowance : Int}
    (edge : Relationship) (free : ¬ store.hasEdge source m.entity (some tag) = true)
    (left : 0 < allowance) (target : edge.target = m.entity)
    (others : ∀ other ∈ rest, other.entity ≠ m.entity) :
    unlinked source tag allowance store.edges (m :: rest) =
      m :: unlinked source tag (allowance - 1) (store.edges ++ [edge]) rest := by
  have count : allowance.toNat = (allowance - 1).toNat + 1 := by omega
  rw [unlinked, List.filter_cons_of_pos (by simpa [GraphStore.hasEdge] using free), count,
    List.take_succ_cons, unlinked]
  congr 2
  refine List.filter_congr fun other member => ?_
  have apart : edge.target ≠ other.entity := target ▸ (others other member).symm
  simp [GraphStore.joins, apart]

/-- Linking makes edges to the first matches that no edge leads to yet, as far as the allowance goes. -/
theorem linkMatches_run (clock : ℕ → DateTime) (similar : Similarity) (source tag : String)
    (allowance : Int) {found : List SimilarityMatch} (distinct : (found.map (·.entity)).Nodup)
    (store : GraphStore) :
    ∃ made, (linkMatches source tag false allowance found).runOn clock similar store =
        (.ok made.length, withEdges store made) ∧ Fresh store.issued made ∧
      List.Forall₂ (Joins clock source tag) (unlinked source tag allowance store.edges found) made := by
  -- Over any clock and store, as the rest is linked later and in the store that the first match leaves.
  induction found generalizing clock allowance store with
  | nil => exact ⟨[], by simp [linkMatches], nofun, by simp [unlinked]⟩
  | cons m rest ih =>
    obtain ⟨unseen, distinct⟩ := List.nodup_cons.mp distinct
    unfold linkMatches
    by_cases spent : allowance ≤ 0
    · have nothing : allowance.toNat = 0 := by omega
      exact ⟨[], by simp [spent], nofun, by simp [unlinked, nothing]⟩
    rw [if_neg spent]
    simp only [GraphTask.runOn_bind, link_run, Bool.false_eq_true, if_false, GraphTask.runOn_pure]
    by_cases present : store.hasEdge source m.entity (some tag) = true
    · obtain ⟨made, run, fresh, links⟩ := ih _ (allowance - false.toInt) distinct store
      refine ⟨made, ?_, fresh, ?_⟩
      · rw [if_pos present]
        dsimp only
        rw [run]
        simp
      · rw [unlinked_cons_of_joined present, ← Int.sub_zero allowance]
        exact links.imp fun _ _ joins => joins.earlier.earlier
    · have others : ∀ other ∈ rest, other.entity ≠ m.entity :=
        fun other member same => unseen (List.mem_map.mpr ⟨other, member, same⟩)
      let edge := store.nextEdge (clock 1) source m.entity tag (Similarity.weight m.score)
        (discovered m.score)
      obtain ⟨made, run, fresh, links⟩ := ih _ (allowance - true.toInt) distinct (withEdges store [edge])
      have first : Joins clock source tag m edge := ⟨rfl, rfl, rfl, rfl, rfl, 1, rfl⟩
      have freshEdge : Fresh store.issued [edge] := by
        intro e member
        cases List.mem_singleton.mp member
        exact ⟨store.issued, le_rfl, rfl⟩
      refine ⟨edge :: made, ?_, freshEdge.append fresh, ?_⟩
      · rw [if_neg present]
        dsimp only
        rw [run]
        simp [withEdges_withEdges, Nat.add_comm]
      · rw [unlinked_cons_of_free edge present (by omega) rfl others]
        exact .cons first (links.imp fun _ _ joins => joins.earlier.earlier)

/-- Deleting leaves the edges that are not unwanted. What it counts does not depend on the clock. -/
theorem deleteWhere_run (similar : Similarity) (unwanted : Relationship → Bool) (edges : List Relationship)
    (store : GraphStore) :
    ∃ count, ∀ clock, (deleteWhere unwanted edges).runOn clock similar store = (.ok count, { store with
      edges := store.edges.filter fun e => !edges.any fun d => unwanted d && d.id == e.id }) := by
  induction edges generalizing store with
  | nil => exact ⟨0, fun clock => by simp [deleteWhere]⟩
  | cons edge rest ih =>
    by_cases isUnwanted : unwanted edge = true
    · obtain ⟨count, run⟩ := ih (store.delete edge.id).2
      have left : ((store.delete edge.id).2.edges.filter fun e =>
          !rest.any fun d => unwanted d && d.id == e.id) =
            store.edges.filter fun e => !(edge :: rest).any fun d => unwanted d && d.id == e.id := by
        rw [GraphStore.delete, List.filter_filter]
        refine List.filter_congr fun e _ => ?_
        rw [List.any_cons, isUnwanted, Bool.true_and, Bool.not_or, Bool.and_comm, bne, BEq.comm]
      refine ⟨(store.delete edge.id).1.toNat + count, fun clock => ?_⟩
      simp only [deleteWhere, isUnwanted, if_true, GraphTask.runOn_bind, GraphTask.runOn_delete, run,
        GraphTask.runOn_pure, left]
      rfl
    · obtain ⟨count, run⟩ := ih store
      refine ⟨count, fun clock => ?_⟩
      simp [deleteWhere, isUnwanted, GraphTask.runOn_bind, run]

/-- The edges that stay when an entity is relinked. -/
def keptEdges (linker : Linker) (id : String) (edges : List Relationship) : List Relationship :=
  edges.filter fun e => !(e.source == id && e.tag == linker.tag && e.isSemantic)

theorem outgoing_run (linker : Linker) (id : String) (store : GraphStore) :
    store.edgesOf id .out [linker.tag] none none =
      .ok (store.edges.filter fun e => e.source == id && e.tag == linker.tag) := by
  simp only [GraphStore.edgesOf, GraphStore.touches, limited, Option.all_none, Bool.and_true, if_true]
  congr 2
  funext e
  by_cases same : e.tag = linker.tag <;> simp [same]

theorem keptEdges_eq (linker : Linker) (id : String) (sound : store.Sound) :
    (store.edges.filter fun e =>
      !(store.edges.filter fun e => e.source == id && e.tag == linker.tag).any
        fun d => d.isSemantic && d.id == e.id) = linker.keptEdges id store.edges := by
  refine List.filter_congr fun e member => congrArg not (Bool.eq_iff_iff.mpr ?_)
  simp only [List.any_eq_true, List.mem_filter, Bool.and_eq_true, beq_iff_eq]
  constructor
  · rintro ⟨d, ⟨atD, ends⟩, semantic, sameId⟩
    have same : d = e := List.inj_on_of_nodup_map sound.edgeIds atD member sameId
    exact ⟨same ▸ ends, same ▸ semantic⟩
  · rintro ⟨ends, semantic⟩
    exact ⟨e, ⟨member, ends⟩, semantic, rfl⟩

/-- The matches that relinking makes edges for. -/
def chosen (linker : Linker) (id : String) (maxLinks : Int) (edges : List Relationship)
    (found : List SimilarityMatch) : List SimilarityMatch :=
  unlinked id linker.tag maxLinks (linker.keptEdges id edges) (distinctOthers id found)

theorem updateLinks_run (linker : Linker) {id : String} {entity : Entity} {threshold : Number}
    {maxLinks : Int} {found : List SimilarityMatch} (clock : ℕ → DateTime) (sound : store.Sound)
    (known : store.entity? id = some entity)
    (answer : similar { text := entity.searchText, limit := maxLinks + 1, threshold } = .ok found) :
    let left : GraphStore := { store with edges := linker.keptEdges id store.edges }
    ∃ made, (linker.updateLinks id threshold maxLinks).runOn clock similar store =
        (.ok made.length, withEdges left made) ∧ Fresh store.issued made ∧
      List.Forall₂ (Joins clock id linker.tag) (linker.chosen id maxLinks store.edges found) made := by
  intro left
  have sameId : entity.id = id := (GraphStore.entity_some known).2
  obtain ⟨count, deleted⟩ := deleteWhere_run similar Relationship.isSemantic
    (store.edges.filter fun e => e.source == id && e.tag == linker.tag) store
  rw [keptEdges_eq linker id sound] at deleted
  have unchanged : ({ store with edges := linker.keptEdges id store.edges } : GraphStore).entity? id =
      some entity := known
  simp only [updateLinks, candidates, linkEntity, GraphTask.runOn_bind, GraphTask.runOn_entity?, known,
    GraphTask.runOn_attempt, GraphTask.runOn_search, answer, GraphTask.runOn_pure,
    GraphTask.runOn_edgesOf, outgoing_run, deleted, unchanged, sameId, newMatches_self]
  have distinct : ((distinctOthers id found).map (·.entity)).Nodup :=
    newMatches_self id found ▸ newMatches_nodup [id] found
  obtain ⟨made, run, fresh, links⟩ := linkMatches_run _ similar id (linker.tagOr none) maxLinks distinct left
  refine ⟨made, run, fresh, links.imp fun _ _ joins => ?_⟩
  exact joins.earlier.earlier.earlier.earlier.earlier.earlier

theorem updateLinks_unknown (linker : Linker) {id : String} (threshold : Number) (maxLinks : Int)
    (clock : ℕ → DateTime) (similar : Similarity) (unknown : store.entity? id = none) :
    (linker.updateLinks id threshold maxLinks).runOn clock similar store = (.ok 0, store) := by
  simp only [updateLinks, GraphTask.runOn_bind, GraphTask.runOn_entity?, unknown, GraphTask.runOn_pure]

theorem updateLinks_failed (linker : Linker) {id : String} {entity : Entity} {threshold : Number}
    {maxLinks : Int} {failure : StoreFailure} (clock : ℕ → DateTime) (known : store.entity? id = some entity)
    (answer : similar { text := entity.searchText, limit := maxLinks + 1, threshold } =
      .error failure) :
    (linker.updateLinks id threshold maxLinks).runOn clock similar store = (.ok 0, store) := by
  simp only [updateLinks, candidates, GraphTask.runOn_bind, GraphTask.runOn_entity?, known,
    GraphTask.runOn_attempt, GraphTask.runOn_search, answer, GraphTask.runOn_pure]

theorem Joins.isSemantic {m : SimilarityMatch} {edge : Relationship}
    (joins : Joins clock source tag m edge) : edge.isSemantic = true := by
  rw [Relationship.isSemantic, joins.metadata]
  rfl

/-- Edges made by relinking are those that are replaced when an entity is relinked again. -/
theorem keptEdges_append (linker : Linker) (id : String) (edges : List Relationship)
    {matched : List SimilarityMatch} {made : List Relationship}
    (links : List.Forall₂ (Joins clock id linker.tag) matched made) :
    linker.keptEdges id (linker.keptEdges id edges ++ made) = linker.keptEdges id edges := by
  have gone : linker.keptEdges id made = [] := by
    induction links with
    | nil => rfl
    | @cons m edge _ _ joins _ ih =>
      rw [keptEdges, List.filter_cons_of_neg (by simp [joins.source, joins.tag, joins.isSemantic])]
      exact ih
  have still : linker.keptEdges id (linker.keptEdges id edges) = linker.keptEdges id edges := by
    simp only [keptEdges, List.filter_filter, Bool.and_self]
  rw [keptEdges, List.filter_append]
  exact (congrArg₂ (· ++ ·) still gone).trans (List.append_nil _)

/-- An edge but for its id and the time when it was made. -/
def bare (edge : Relationship) : Relationship :=
  { edge with id := "", createdAt := default }

theorem bare_pairs {pairs : List (String × SimilarityMatch)} {made : List Relationship}
    (links : List.Forall₂ (fun pair e => Joins clock pair.1 tag pair.2 e) pairs made) :
    made.map bare = pairs.map fun pair => ⟨"", pair.1, pair.2.entity, tag,
      Similarity.weight pair.2.score, discovered pair.2.score, default⟩ := by
  induction links with
  | nil => rfl
  | cons joins _ ih =>
    rw [List.map_cons, List.map_cons, ih, bare, joins.source, joins.target, joins.tag, joins.weight,
      joins.metadata]

theorem bare_made {matched : List SimilarityMatch} {made : List Relationship}
    (links : List.Forall₂ (Joins clock source tag) matched made) :
    made.map bare = matched.map fun m =>
      ⟨"", source, m.entity, tag, Similarity.weight m.score, discovered m.score, default⟩ := by
  have paired : List.Forall₂ (fun pair e => Joins clock pair.1 tag pair.2 e) (matched.map (source, ·))
      made := List.forall₂_map_left_iff.mpr links
  rw [bare_pairs paired, List.map_map]
  rfl

theorem updateLinks_again (linker : Linker) (id : String) (threshold : Number) (maxLinks : Int)
    (similar : Similarity) (clock later : ℕ → DateTime) (sound : store.Sound) :
    let update := fun clock => (linker.updateLinks id threshold maxLinks).runOn clock similar
    let once := update clock store
    let twice := update later once.2
    twice.1 = once.1 ∧ twice.2.entities = once.2.entities ∧
      twice.2.edges.map bare = once.2.edges.map bare := by
  intro update once twice
  have idle (same : ∀ clock, update clock store = (.ok 0, store)) : twice = once := by
    have stays : once.2 = store := congrArg Prod.snd (same clock)
    have again : twice = (.ok 0, store) := stays ▸ same later
    exact again.trans (same clock).symm
  cases known : store.entity? id with
  | none =>
    rw [idle fun clock => updateLinks_unknown linker threshold maxLinks clock similar known]
    exact ⟨rfl, rfl, rfl⟩
  | some entity =>
    cases answer : similar { text := entity.searchText, limit := maxLinks + 1, threshold } with
    | error failure =>
      rw [idle fun clock => updateLinks_failed linker clock known answer]
      exact ⟨rfl, rfl, rfl⟩
    | ok found =>
      obtain ⟨made, run, _, links⟩ := updateLinks_run linker clock sound known answer
      have soundOnce : once.2.Sound := sound.runAmid _
      have onceRun : once = _ := run
      have knownOnce : once.2.entity? id = some entity := by
        rw [onceRun]
        exact known
      have keptOnce : linker.keptEdges id once.2.edges = linker.keptEdges id store.edges := by
        rw [onceRun]
        exact keptEdges_append linker id store.edges links
      obtain ⟨again, runAgain, _, linksAgain⟩ := updateLinks_run linker later soundOnce knownOnce answer
      have twiceRun : twice = _ := runAgain
      rw [chosen, keptOnce] at linksAgain
      have count : again.length = made.length := linksAgain.length_eq.symm.trans links.length_eq
      rw [twiceRun, count, keptOnce, onceRun]
      refine ⟨rfl, rfl, ?_⟩
      rw [withEdges, withEdges, List.map_append, List.map_append, bare_made links, bare_made linksAgain]
      rfl

/-- Relinking an entity that is not stored, or one for which the search fails, changes nothing. Otherwise
it leaves all edges but the outgoing ones of the entity found by similarity with the linker's tag, and
makes an edge to each of the first other entities found that none of the edges left leads to. Relinking
once more, with the same answer, counts and makes the same edges. -/
theorem updateLinks_replaces (linker : Linker) (id : String) (threshold : Number) (maxLinks : Int)
    (similar : Similarity) (clock later : ℕ → DateTime) (sound : store.Sound) :
    let update := fun clock => (linker.updateLinks id threshold maxLinks).runOn clock similar
    let once := update clock store
    let twice := update later once.2
    (store.entity? id = none → once = (.ok 0, store)) ∧
      (∀ entity, store.entity? id = some entity →
        match similar { text := entity.searchText, limit := maxLinks + 1, threshold } with
        | .error _ => once = (.ok 0, store)
        | .ok found =>
          let kept := store.edges.filter fun e =>
            !(e.source == id && e.tag == linker.tag && e.isSemantic)
          let others := (found.filter (·.entity != id)).eraseDupsBy fun m n => m.entity == n.entity
          let chosen := (others.filter fun m =>
            !kept.any (GraphStore.joins id m.entity (some linker.tag))).take maxLinks.toNat
          once.1 = .ok chosen.length ∧ once.2.entities = store.entities ∧
            ∃ made, once.2.edges = kept ++ made ∧
              (∀ e ∈ made, ∀ old ∈ store.edges, e.id ≠ old.id) ∧
              List.Forall₂ (fun m e => e.source = id ∧ e.target = m.entity ∧ e.tag = linker.tag ∧
                e.metadata = [("discoveredBy", .str "semantic"), ("similarity", .ofNumber m.score)] ∧
                Similarity.IsClamped m.score e.weight ∧ ∃ n, e.createdAt = clock n) chosen made) ∧
      twice.1 = once.1 ∧ twice.2.entities = once.2.entities ∧
      twice.2.edges.map bare = once.2.edges.map bare := by
  intro update once twice
  refine ⟨updateLinks_unknown linker threshold maxLinks clock similar, fun entity known => ?_,
    updateLinks_again linker id threshold maxLinks similar clock later sound⟩
  split
  · rename_i failure answer
    exact updateLinks_failed linker clock known answer
  · rename_i found answer
    obtain ⟨made, run, fresh, links⟩ := updateLinks_run linker clock sound known answer
    have onceRun : once = _ := run
    rw [onceRun]
    refine ⟨congrArg Except.ok links.length_eq.symm, rfl, made, rfl, fresh.ne sound,
      links.imp fun m edge joins => ?_⟩
    have clamped : Similarity.IsClamped m.score edge.weight :=
      joins.weight ▸ Similarity.isClamped_weight m.score
    exact ⟨joins.source, joins.target, joins.tag, joins.metadata, clamped, joins.createdAt⟩

theorem updateLinks_replaces_sample :
    let update := fun clock =>
      (({} : Linker).updateLinks "a" (.float 0.5) 3).runOn clock sampleSimilarity
    let later := fun n : ℕ => ({ year := 2024, month := 2, day := 29, microsecond := n } : DateTime)
    let once := update (fun _ => default) sampleGraph
    let twice := update later once.2
    sampleGraph.Sound ∧ once.1 = .ok 1 ∧ twice.1 = once.1 ∧
      (∃ new, once.2.edges = sampleGraph.edges.take 1 ++ [new] ∧ new.source = "a" ∧ new.target = "c" ∧
        ∀ old ∈ sampleGraph.edges, new.id ≠ old.id) ∧
      twice.2.edges.map bare = once.2.edges.map bare := by
  intro update later once twice
  obtain ⟨_, known, count, _, edges⟩ := updateLinks_replaces {} "a" (.float 0.5) 3 sampleSimilarity
    (fun _ => default) later sampleGraph_sound
  obtain ⟨one, _, made, kept, fresh, links⟩ := known (sampleEntity "a") (by rfl)
  let best : SimilarityMatch := { entity := "c", score := .float 0.75 }
  have matched : List.Forall₂ _ [best] made := links
  obtain _ | ⟨⟨source, target, _⟩, ⟨⟩⟩ := matched
  exact ⟨sampleGraph_sound, one, count, ⟨_, kept, source, target, fresh _ (List.mem_singleton_self _)⟩,
    edges⟩

end Linker

end CodeGraph
