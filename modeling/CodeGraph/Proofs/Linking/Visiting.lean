import CodeGraph.Proofs.Linking.Discovery

namespace CodeGraph

/-- The shortest start of a list with so many items of a kind, or all of a list with fewer. -/
structure ShortestStart {α : Type} (p : α → Bool) (count : ℕ) (start all : List α) : Prop where
  isPrefix : start <+: all
  reaches : start.countP p = count ∨ start = all ∧ all.countP p < count
  shortest : ∀ shorter, shorter <+: start → shorter ≠ start → shorter.countP p < count

namespace ShortestStart

variable {α : Type} {p : α → Bool} {count : ℕ} {start rest : List α} {item : α}

theorem zero (p : α → Bool) (all : List α) : ShortestStart p 0 [] all :=
  ⟨List.nil_prefix, .inl rfl, fun _ before other => absurd (List.prefix_nil.mp before) other⟩

theorem nil (p : α → Bool) (count : ℕ) : ShortestStart p count [] [] := by
  refine ⟨List.nil_prefix, ?_, fun _ before other => absurd (List.prefix_nil.mp before) other⟩
  rcases Nat.eq_zero_or_pos count with rfl | some
  · exact .inl rfl
  · exact .inr ⟨rfl, some⟩

/-- An item is passed on the way to those that are still lacking. -/
theorem cons (shortest : ShortestStart p (count - (p item).toNat) start rest) (lacking : 0 < count) :
    ShortestStart p count (item :: start) (item :: rest) := by
  have one : (p item).toNat ≤ 1 := Bool.toNat_le (p item)
  have counted (items : List α) : (item :: items).countP p = items.countP p + (p item).toNat := by
    rw [List.countP_cons]
    cases p item <;> rfl
  refine ⟨List.cons_prefix_cons.mpr ⟨rfl, shortest.isPrefix⟩, ?_, ?_⟩
  · rcases shortest.reaches with all | ⟨rfl, fewer⟩
    · exact .inl (by rw [counted]; omega)
    · exact .inr ⟨rfl, by rw [counted]; omega⟩
  · rintro (_ | ⟨head, shorter⟩) before other
    · exact lacking
    · obtain ⟨rfl, within⟩ := List.cons_prefix_cons.mp before
      have less := shortest.shortest shorter within fun same => other (by rw [same])
      rw [counted]
      omega

theorem countP_le (shortest : ShortestStart p count start rest) : start.countP p ≤ count := by
  rcases shortest.reaches with all | ⟨rfl, fewer⟩
  · exact all.le
  · exact fewer.le

end ShortestStart

namespace Linker

variable {store : GraphStore} {clock : ℕ → DateTime} {similar : Similarity} {source tag id : String}

/-- The matches that are gone through while so many of a kind are still wanted. -/
def visited (wanted : SimilarityMatch → Bool) : (allowance : Int) → List SimilarityMatch → List SimilarityMatch
  | _, [] => []
  | allowance, m :: rest =>
    if allowance ≤ 0 then [] else m :: visited wanted (allowance - (wanted m).toInt) rest

theorem visited_shortest (wanted : SimilarityMatch → Bool) (allowance : Int) (found : List SimilarityMatch) :
    ShortestStart wanted allowance.toNat (visited wanted allowance found) found := by
  induction found generalizing allowance with
  | nil => exact .nil wanted _
  | cons m rest ih =>
    unfold visited
    split
    · rename_i spent
      rw [Int.toNat_of_nonpos spent]
      exact .zero wanted _
    · have left : (allowance - (wanted m).toInt).toNat = allowance.toNat - (wanted m).toNat := by
        cases wanted m <;> simp [Bool.toInt]
      exact .cons (left ▸ ih _) (by omega)

theorem visited_congr {wanted other : SimilarityMatch → Bool} {found : List SimilarityMatch} (allowance : Int)
    (same : ∀ m ∈ found, wanted m = other m) : visited wanted allowance found = visited other allowance found := by
  induction found generalizing allowance with
  | nil => rfl
  | cons m rest ih =>
    obtain ⟨here, later⟩ := List.forall_mem_cons.mp same
    simp only [visited, here, ih _ later]

/-- Whether no edge with a tag joins two entities. -/
def apart (edges : List Relationship) (tag source target : String) : Bool :=
  !edges.any (GraphStore.joins source target (some tag))

/-- The ends of the edge that is made where there is none. -/
def newLink (edges : List Relationship) (tag source : String) (m : SimilarityMatch) :
    List (String × SimilarityMatch) :=
  if apart edges tag source m.entity then [(source, m)] else []

/-- The ends of the edges that are made for a match, which leads back as the entity itself. -/
def linksFor (edges : List Relationship) (tag id : String) (bidirectional : Bool) (m : SimilarityMatch) :
    List (String × SimilarityMatch) :=
  newLink edges tag id m ++ if bidirectional then newLink edges tag m.entity { m with entity := id } else []

theorem apart_append {edges made : List Relationship} {target : String}
    (others : ∀ e ∈ made, ¬ (e.source = source ∧ e.target = target)) :
    apart (edges ++ made) tag source target = apart edges tag source target := by
  have none : made.any (GraphStore.joins source target (some tag)) = false := by
    simp only [List.any_eq_false, GraphStore.joins, Bool.and_eq_true, beq_iff_eq, not_and]
    exact fun e member ends => absurd ends (others e member)
  rw [apart, List.any_append, none, Bool.or_false, apart]

/-- Making the edge that is missing, if one is. -/
theorem link_new (clock : ℕ → DateTime) (similar : Similarity) (source tag : String) (m : SimilarityMatch)
    (store : GraphStore) :
    ∃ made, (link source m.entity tag m.score).runOn clock similar store =
        (.ok (apart store.edges tag source m.entity), withEdges store made) ∧
      (apart store.edges tag source m.entity).toNat = made.length ∧
      List.Forall₂ (fun pair e => Joins clock pair.1 tag pair.2 e) (newLink store.edges tag source m) made := by
  rw [link_run]
  unfold newLink apart GraphStore.hasEdge
  cases store.edges.any (GraphStore.joins source m.entity (some tag)) with
  | true => exact ⟨[], by simp, rfl, .nil⟩
  | false => exact ⟨[_], rfl, rfl, .cons ⟨rfl, rfl, rfl, rfl, rfl, 1, rfl⟩ .nil⟩

/-- An edge leads from an entity to a match or back. -/
def Between (id target : String) (e : Relationship) : Prop :=
  e.source = id ∧ e.target = target ∨ e.source = target ∧ e.target = id

theorem newLink_ends {edges made : List Relationship} {m : SimilarityMatch}
    (links : List.Forall₂ (fun pair e => Joins clock pair.1 tag pair.2 e) (newLink edges tag source m) made) :
    ∀ e ∈ made, e.source = source ∧ e.target = m.entity := by
  intro e member
  obtain ⟨pair, atPair, ends⟩ := (joins_ends_iff links).mp ⟨e, member, rfl, rfl⟩
  unfold newLink at atPair
  split at atPair
  · cases List.mem_singleton.mp atPair
    exact ⟨ends.1.symm, ends.2.symm⟩
  · exact absurd atPair List.not_mem_nil

/-- Going through one match makes its edges, in either direction. -/
theorem visit_run (clock : ℕ → DateTime) (similar : Similarity) (tag id : String) (bidirectional : Bool)
    {m : SimilarityMatch} (other : m.entity ≠ id) (next : Bool → Bool → GraphTask ℕ) (store : GraphStore) :
    let out := apart store.edges tag id m.entity
    ∃ (back : Bool) (made : List Relationship) (later : ℕ → DateTime),
      (link id m.entity tag m.score >>= fun out =>
          if bidirectional = true then link m.entity id tag m.score >>= next out
          else pure false >>= next out).runOn clock similar store =
        (next out back).runOn later similar (withEdges store made) ∧
      (∀ n, ∃ k, later n = clock k) ∧
      out.toNat + back.toNat = made.length ∧ (∀ e ∈ made, Between id m.entity e) ∧
      List.Forall₂ (fun pair e => Joins clock pair.1 tag pair.2 e)
        (linksFor store.edges tag id bidirectional m) made := by
  intro out
  obtain ⟨first, outRun, outCount, outLinks⟩ := link_new clock similar id tag m store
  have outEnds := newLink_ends outLinks
  have among := GraphTask.after_mem clock similar (link id m.entity tag m.score) store
  unfold linksFor
  cases bidirectional with
  | false =>
    refine ⟨false, first, _, ?_, among, outCount, fun e member => .inl (outEnds e member),
      by simpa using outLinks⟩
    simp only [GraphTask.runOn_bind, outRun, Bool.false_eq_true, if_false, GraphTask.runOn_pure]
    rfl
  | true =>
    let between := (link id m.entity tag m.score).after clock similar store
    obtain ⟨second, backRun, backCount, backLinks⟩ :=
      link_new between similar m.entity tag { m with entity := id } (withEdges store first)
    have backEnds := newLink_ends backLinks
    have same : apart (store.edges ++ first) tag m.entity id = apart store.edges tag m.entity id :=
      apart_append fun e member ends => other (ends.1.symm.trans (outEnds e member).1)
    have unchanged : newLink (withEdges store first).edges tag m.entity { m with entity := id } =
        newLink store.edges tag m.entity { m with entity := id } := by
      simp only [newLink, withEdges, same]
    refine ⟨apart (withEdges store first).edges tag m.entity id, first ++ second,
      (link m.entity id tag m.score).after between similar (withEdges store first), ?_, fun n => ?_, ?_, ?_,
      List.rel_append outLinks ?_⟩
    · simp only [GraphTask.runOn_bind, outRun, if_true, between] at backRun ⊢
      rw [backRun, withEdges_withEdges]
    · obtain ⟨k, same⟩ := GraphTask.after_mem between similar _ _ n
      exact same ▸ among k
    · rw [List.length_append, ← outCount, ← backCount]
    · intro e member
      exact (List.mem_append.mp member).imp (outEnds e) (backEnds e)
    · exact unchanged ▸ backLinks.imp fun _ _ joins => joins.among among

/-- The edges of matches keep no other entity from being joined, in either direction. -/
theorem Between.apart {other : String} {edges made : List Relationship}
    (between : ∀ e ∈ made, ∃ target, Between id target e ∧ other ≠ target) (notSelf : other ≠ id) :
    apart (edges ++ made) tag id other = apart edges tag id other ∧
      apart (edges ++ made) tag other id = apart edges tag other id := by
  constructor
  · refine apart_append fun e member ends => ?_
    obtain ⟨target, ⟨-, same⟩ | ⟨-, same⟩, different⟩ := between e member
    · exact different (ends.2.symm.trans same)
    · exact notSelf (ends.2.symm.trans same)
  · refine apart_append fun e member ends => ?_
    obtain ⟨target, ⟨same, -⟩ | ⟨same, -⟩, different⟩ := between e member
    · exact notSelf (ends.1.symm.trans same)
    · exact different (ends.1.symm.trans same)

/-- The ends of the edges that are made for matches, as far as they are gone through. -/
def linksTo (edges : List Relationship) (tag id : String) (bidirectional : Bool) (allowance : Int)
    (found : List SimilarityMatch) : List (String × SimilarityMatch) :=
  (visited (fun m => apart edges tag id m.entity) allowance found).flatMap
    (linksFor edges tag id bidirectional)

/-- The edges of one match change nothing for those that come after it. -/
theorem linksTo_append {target : String} {edges made : List Relationship} {bidirectional : Bool}
    {found : List SimilarityMatch} (allowance : Int) (between : ∀ e ∈ made, Between id target e)
    (others : ∀ n ∈ found, n.entity ≠ target ∧ n.entity ≠ id) :
    linksTo (edges ++ made) tag id bidirectional allowance found =
      linksTo edges tag id bidirectional allowance found := by
  have same (n : SimilarityMatch) (member : n ∈ found) :
      apart (edges ++ made) tag id n.entity = apart edges tag id n.entity ∧
        apart (edges ++ made) tag n.entity id = apart edges tag n.entity id :=
    Between.apart (fun e here => ⟨target, between e here, (others n member).1⟩) (others n member).2
  unfold linksTo
  rw [visited_congr allowance fun n member => (same n member).1]
  refine List.flatMap_congr fun n member => ?_
  have passed : n ∈ found := (visited_shortest _ _ found).isPrefix.subset member
  simp only [linksFor, newLink, same n passed]

/-- Linking goes through the matches until so many edges lead away, and makes the edges that are missing. -/
theorem linkMatches_visits (clock : ℕ → DateTime) (similar : Similarity) (tag id : String)
    (bidirectional : Bool) (allowance : Int) {found : List SimilarityMatch}
    (distinct : (found.map (·.entity)).Nodup) (others : ∀ m ∈ found, m.entity ≠ id) (store : GraphStore) :
    ∃ made, (linkMatches id tag bidirectional allowance found).runOn clock similar store =
        (.ok made.length, withEdges store made) ∧
      List.Forall₂ (fun pair e => Joins clock pair.1 tag pair.2 e)
        (linksTo store.edges tag id bidirectional allowance found) made := by
  -- Over any store, as the rest is linked in the one that the first match leaves, and later.
  induction found generalizing clock allowance store with
  | nil => exact ⟨[], by simp [linkMatches], .nil⟩
  | cons m rest ih =>
    obtain ⟨unseen, distinct⟩ := List.nodup_cons.mp distinct
    obtain ⟨other, others⟩ := List.forall_mem_cons.mp others
    have different : ∀ n ∈ rest, n.entity ≠ m.entity ∧ n.entity ≠ id := fun n member =>
      ⟨fun same => unseen (List.mem_map.mpr ⟨n, member, same⟩), others n member⟩
    unfold linkMatches linksTo visited
    by_cases spent : allowance ≤ 0
    · rw [if_pos spent, if_pos spent]
      exact ⟨[], by simp, .nil⟩
    rw [if_neg spent, if_neg spent]
    obtain ⟨back, first, later, run, among, count, between, links⟩ :=
      visit_run clock similar tag id bidirectional other
        (fun out back => linkMatches id tag bidirectional (allowance - out.toInt) rest >>= fun more =>
          pure (out.toNat + back.toNat + more)) store
    obtain ⟨second, rested, more⟩ :=
      ih later (allowance - (apart store.edges tag id m.entity).toInt) distinct others (withEdges store first)
    refine ⟨first ++ second, ?_, ?_⟩
    · refine run.trans ?_
      rw [GraphTask.runOn_bind, rested, withEdges_withEdges]
      simp only [GraphTask.runOn_pure, count, List.length_append]
    · rw [withEdges, linksTo_append _ between different] at more
      rw [List.flatMap_cons]
      exact List.rel_append links (more.imp fun _ _ joins => joins.among among)

theorem linkNewEntity_unknown (linker : Linker) {id : String} (threshold : Number) (maxLinks : Int)
    (named : Option String) (bidirectional : Bool) (clock : ℕ → DateTime) (similar : Similarity)
    (unknown : store.entity? id = none) :
    (linker.linkNewEntity id threshold maxLinks named bidirectional).runOn clock similar store =
      (.ok 0, store) := by
  simp only [linkNewEntity, linkEntity, GraphTask.runOn_bind, GraphTask.runOn_attempt,
    GraphTask.runOn_entity?, unknown, GraphTask.runOn_pure]

theorem linkNewEntity_failed (linker : Linker) {id : String} {entity : Entity} {threshold : Number}
    {maxLinks : Int} {failure : StoreFailure} (named : Option String) (bidirectional : Bool) (clock : ℕ → DateTime)
    (known : store.entity? id = some entity)
    (answer : similar { text := entity.searchText, limit := maxLinks + 1, threshold } = .error failure) :
    (linker.linkNewEntity id threshold maxLinks named bidirectional).runOn clock similar store =
      (.ok 0, store) := by
  simp only [linkNewEntity, linkEntity, GraphTask.runOn_bind, GraphTask.runOn_attempt,
    GraphTask.runOn_entity?, known, candidates_run, answer, Except.map, GraphTask.runOn_pure]

theorem distinctOthers_ne {found : List SimilarityMatch} {m : SimilarityMatch}
    (member : m ∈ distinctOthers id found) : m.entity ≠ id := by
  rw [← newMatches_self] at member
  exact fun same => newMatches_unseen member (by simp [same])

theorem linkNewEntity_found (linker : Linker) {id : String} {entity : Entity} {threshold : Number}
    {maxLinks : Int} {found : List SimilarityMatch} (named : Option String) (bidirectional : Bool)
    (clock : ℕ → DateTime) (known : store.entity? id = some entity)
    (answer : similar { text := entity.searchText, limit := maxLinks + 1, threshold } = .ok found) :
    ∃ made, (linker.linkNewEntity id threshold maxLinks named bidirectional).runOn clock similar store =
        (.ok made.length, withEdges store made) ∧
      List.Forall₂ (fun pair e => Joins clock pair.1 (linker.tagOr named) pair.2 e)
        (linksTo store.edges (linker.tagOr named) id bidirectional maxLinks (distinctOthers id found)) made := by
  have sameId : entity.id = id := (GraphStore.entity_some known).2
  have distinct : ((distinctOthers id found).map (·.entity)).Nodup :=
    newMatches_self id found ▸ newMatches_nodup [id] found
  simp only [linkNewEntity, linkEntity, GraphTask.runOn_bind, GraphTask.runOn_attempt,
    GraphTask.runOn_entity?, known, candidates_run, answer, Except.map, sameId]
  obtain ⟨made, run, links⟩ := linkMatches_visits _ similar (linker.tagOr named) id bidirectional maxLinks
    distinct (fun _ => distinctOthers_ne) store
  rw [run]
  exact ⟨made, rfl, links.imp fun _ _ joins => joins.earlier.earlier⟩

theorem linksFor_ends (edges : List Relationship) (tag id : String) (bidirectional : Bool) (m : SimilarityMatch) :
    (linksFor edges tag id bidirectional m).map (fun pair => (pair.1, pair.2.entity, pair.2.score)) =
      (if apart edges tag id m.entity then [(id, m.entity, m.score)] else []) ++
        if bidirectional && apart edges tag m.entity id then [(m.entity, id, m.score)] else [] := by
  unfold linksFor newLink
  cases apart edges tag id m.entity <;> cases bidirectional <;> cases apart edges tag m.entity id <;> rfl

/-- Edges back lead away from others, so they are not among those that lead away from the entity. -/
theorem linksFor_outgoing {edges : List Relationship} {bidirectional : Bool} {matched : List SimilarityMatch}
    (others : ∀ m ∈ matched, m.entity ≠ id) :
    (matched.flatMap (linksFor edges tag id bidirectional)).countP (·.1 == id) =
      matched.countP fun m => apart edges tag id m.entity := by
  induction matched with
  | nil => rfl
  | cons m rest ih =>
    obtain ⟨other, others⟩ := List.forall_mem_cons.mp others
    have own : (newLink edges tag id m).countP (·.1 == id) = (apart edges tag id m.entity).toNat := by
      unfold newLink
      cases apart edges tag id m.entity <;> simp
    have back : (if bidirectional then newLink edges tag m.entity { m with entity := id } else []).countP
        (·.1 == id) = 0 := by
      unfold newLink
      cases bidirectional <;> cases apart edges tag m.entity id <;> simp [other]
    rw [List.flatMap_cons, List.countP_append, ih others, linksFor, List.countP_append, own, back,
      List.countP_cons]
    cases apart edges tag id m.entity <;> simp [Nat.add_comm]

/-- Linking an entity that is not stored, or one for which the search fails, changes nothing. Otherwise the
other entities found are gone through, each once, up to the one with which so many of them are newly linked
as are allowed. An edge is made to each of those gone through to which none leads yet, and, if asked for, one
back from each from which none leads yet. All of them are counted, while no more lead away from the entity
than are allowed. -/
theorem linkNewEntity_visits (linker : Linker) (id : String) (threshold : Number) (maxLinks : Int)
    (named : Option String) (bidirectional : Bool) (similar : Similarity) (clock : ℕ → DateTime)
    (store : GraphStore) :
    let run := (linker.linkNewEntity id threshold maxLinks named bidirectional).runOn clock similar store
    let tag := linker.tagOr named
    (store.entity? id = none → run = (.ok 0, store)) ∧
      ∀ entity, store.entity? id = some entity →
        match similar { text := entity.searchText, limit := maxLinks + 1, threshold } with
        | .error _ => run = (.ok 0, store)
        | .ok found =>
          let others := (found.filter (·.entity != id)).eraseDupsBy fun m n => m.entity == n.entity
          let unlinked := fun source target => !store.edges.any (GraphStore.joins source target (some tag))
          ∃ visited made,
            ShortestStart (fun m => unlinked id m.entity) maxLinks.toNat visited others ∧
            run.1 = .ok made.length ∧ run.2.entities = store.entities ∧
            run.2.edges = store.edges ++ made ∧
            List.Forall₂ (fun link e => e.source = link.1 ∧ e.target = link.2.1 ∧ e.tag = tag ∧
                e.metadata = [("discoveredBy", .str "semantic"), ("similarity", .ofNumber link.2.2)] ∧
                Similarity.IsClamped link.2.2 e.weight ∧ ∃ n, e.createdAt = clock n)
              (visited.flatMap fun m =>
                (if unlinked id m.entity then [(id, m.entity, m.score)] else []) ++
                  if bidirectional && unlinked m.entity id then [(m.entity, id, m.score)] else []) made ∧
            made.countP (·.source == id) ≤ maxLinks.toNat := by
  intro run tag
  refine ⟨linkNewEntity_unknown linker threshold maxLinks named bidirectional clock similar,
    fun entity known => ?_⟩
  split
  · rename_i failure answer
    exact linkNewEntity_failed linker named bidirectional clock known answer
  · rename_i found answer
    intro others unlinked
    obtain ⟨made, linked, links⟩ := linkNewEntity_found linker named bidirectional clock known answer
    let passed := visited (fun m => unlinked id m.entity) maxLinks others
    have shortest : ShortestStart (fun m => unlinked id m.entity) maxLinks.toNat passed others :=
      visited_shortest _ maxLinks others
    have different : ∀ m ∈ passed, m.entity ≠ id := fun m member =>
      distinctOthers_ne (shortest.isPrefix.subset member)
    refine ⟨passed, made, shortest, congrArg Prod.fst linked, ?_, ?_, ?_, ?_⟩
    · exact congrArg (fun outcome => outcome.2.entities) linked
    · exact congrArg (fun outcome => outcome.2.edges) linked
    · have ends : (passed.flatMap (linksFor store.edges tag id bidirectional)).map
          (fun pair => (pair.1, pair.2.entity, pair.2.score)) = _ :=
        List.map_flatMap.trans (List.flatMap_congr fun m _ => linksFor_ends store.edges tag id bidirectional m)
      refine ends ▸ List.forall₂_map_left_iff.mpr (links.imp fun pair e joins => ?_)
      have clamped : Similarity.IsClamped pair.2.score e.weight :=
        joins.weight ▸ Similarity.isClamped_weight pair.2.score
      exact ⟨joins.source, joins.target, joins.tag, joins.metadata, clamped, joins.createdAt⟩
    · have counted := congrArg (List.countP fun ends => ends.1 == id) (joins_ends links)
      rw [List.countP_map, List.countP_map] at counted
      have outgoing : made.countP (·.source == id) = passed.countP fun m => apart store.edges tag id m.entity :=
        counted.trans (linksFor_outgoing different)
      exact outgoing.trans_le shortest.countP_le

/-- An entity that is linked already is passed on the way to the one that may still be linked, and gets its
edge back. -/
theorem linkNewEntity_visits_authoredSample :
    let run := (({} : Linker).linkNewEntity "a" (.float 0.5) 1 none true).runOn (fun _ => default)
      sampleSimilarity
      authoredSample
    authoredSample.entity? "a" = some (sampleEntity "a") ∧ run.1 = .ok 3 ∧
      ∃ made, run.2.edges = authoredSample.edges ++ made ∧ made.countP (·.source == "a") ≤ 1 ∧
        made.map (fun e => (e.source, e.target)) = [("b", "a"), ("a", "c"), ("c", "a")] := by
  intro run
  have known : authoredSample.entity? "a" = some (sampleEntity "a") := rfl
  obtain ⟨visited, made, _, count, _, edges, _, outgoing⟩ := (linkNewEntity_visits {} "a" (.float 0.5) 1 none
    true sampleSimilarity (fun _ => default) authoredSample).2 _ known
  have whole : run.2.edges.map (fun e => (e.source, e.target)) =
      [("a", "b")] ++ [("b", "a"), ("a", "c"), ("c", "a")] := by decide +kernel
  rw [edges, List.map_append] at whole
  have ends := List.append_cancel_left (whole : [("a", "b")] ++ _ = _)
  have three : made.length = 3 := by simpa using congrArg List.length ends
  exact ⟨known, three ▸ count, made, edges, outgoing, ends⟩

end Linker

end CodeGraph
