import CodeGraph.Proofs.Linking.Visiting

namespace CodeGraph

namespace ShortestStart

variable {α : Type} {p : α → Bool} {count : ℕ} {start other all : List α}

theorem eq_of_isPrefix (shortest : ShortestStart p count start all) (further : ShortestStart p count other all)
    (within : start <+: other) : start = other := by
  by_contra different
  have fewer : start.countP p < count := further.shortest start within different
  rcases shortest.reaches with reached | ⟨whole, _⟩
  · omega
  · have longer : other.length ≤ start.length := whole ▸ further.isPrefix.length_le
    exact different (within.eq_of_length_le longer)

theorem unique (shortest : ShortestStart p count start all) (further : ShortestStart p count other all) :
    start = other := by
  rcases List.prefix_or_prefix_of_prefix shortest.isPrefix further.isPrefix with within | within
  · exact shortest.eq_of_isPrefix further within
  · exact (further.eq_of_isPrefix shortest within).symm

/-- As many items of the kind as are wanted are a start, whatever follows them. -/
theorem of_all {rest : List α} (wanted : ∀ a ∈ start, p a = true) :
    ShortestStart p start.length start (start ++ rest) := by
  have whole : start.countP p = start.length := List.countP_eq_length.mpr wanted
  refine ⟨List.prefix_append start rest, .inl whole, fun shorter before different => ?_⟩
  have fewer : shorter.length < start.length :=
    lt_of_le_of_ne before.length_le fun same => different (before.eq_of_length same)
  exact List.countP_le_length.trans_lt fewer

/-- If something follows a start, then as many items were wanted as it has of the kind. -/
theorem countP_eq {item : α} {rest : List α} (shortest : ShortestStart p count start (start ++ item :: rest)) :
    start.countP p = count := by
  rcases shortest.reaches with reached | ⟨whole, _⟩
  · exact reached
  · have length := congrArg List.length whole
    rw [List.length_append, List.length_cons] at length
    omega

end ShortestStart

namespace Linker

variable {store : GraphStore} {clock : ℕ → DateTime} {similar : Similarity} {source tag id : String}
  {bidirectional : Bool} {edges made : List Relationship}

/-- What is not wanted is passed, and uses up nothing. -/
theorem visited_unwanted {wanted : SimilarityMatch → Bool} {passed rest : List SimilarityMatch} {allowance : Int}
    (left : 0 < allowance) (unwanted : ∀ m ∈ passed, wanted m = false) :
    visited wanted allowance (passed ++ rest) = passed ++ visited wanted allowance rest := by
  induction passed with
  | nil => rfl
  | cons m passed ih =>
    obtain ⟨here, later⟩ := List.forall_mem_cons.mp unwanted
    have still : ¬ allowance ≤ 0 := by omega
    have same : allowance - (wanted m).toInt = allowance := by simp [here]
    rw [List.cons_append, visited, if_neg still, same, ih later, List.cons_append]

theorem visited_spent {wanted : SimilarityMatch → Bool} {found : List SimilarityMatch} {allowance : Int}
    (spent : allowance ≤ 0) : visited wanted allowance found = [] := by
  cases found with
  | nil => rfl
  | cons m rest => rw [visited, if_pos spent]

theorem apart_iff {target : String} :
    apart edges tag source target = true ↔
      ¬ ∃ e ∈ edges, e.source = source ∧ e.target = target ∧ e.tag = tag := by
  rw [apart, Bool.not_eq_true', ← Bool.not_eq_true]
  exact not_congr (@GraphStore.hasEdge_iff { edges } source target tag)

/-- Two entities are joined once an edge has been made for them. -/
theorem apart_made {pairs : List (String × SimilarityMatch)} {target : String}
    (links : List.Forall₂ (fun pair e => Joins clock pair.1 tag pair.2 e) pairs made) :
    apart (edges ++ made) tag source target = true ↔
      apart edges tag source target = true ∧ ¬ ∃ pair ∈ pairs, pair.1 = source ∧ pair.2.entity = target := by
  rw [apart_iff, apart_iff, ← joins_ends_iff links, ← not_or]
  refine not_congr ⟨?_, ?_⟩
  · rintro ⟨e, member, source, target, tagged⟩
    rcases List.mem_append.mp member with old | new
    · exact .inl ⟨e, old, source, target, tagged⟩
    · exact .inr ⟨e, new, source, target⟩
  · rintro (⟨e, old, ends⟩ | ⟨e, new, source, target⟩)
    · exact ⟨e, List.mem_append_left _ old, ends⟩
    · exact ⟨e, List.mem_append_right _ new, source, target, joins_tag links e new⟩

theorem mem_newLink {target : String} {m : SimilarityMatch} :
    (∃ pair ∈ newLink edges tag source m, pair.1 = source ∧ pair.2.entity = target) ↔
      apart edges tag source m.entity = true ∧ m.entity = target := by
  unfold newLink
  split
  · rename_i free
    simp [free]
  · rename_i joined
    simp [joined]

/-- What has been gone through needs no more edges. -/
theorem linksFor_made {visited : List SimilarityMatch} {m : SimilarityMatch} (member : m ∈ visited)
    (links : List.Forall₂ (fun pair e => Joins clock pair.1 tag pair.2 e)
      (visited.flatMap (linksFor edges tag id bidirectional)) made) :
    apart (edges ++ made) tag id m.entity = false ∧ linksFor (edges ++ made) tag id bidirectional m = [] := by
  have there : apart (edges ++ made) tag id m.entity = false := by
    refine Bool.eq_false_iff.mpr fun free => ?_
    obtain ⟨before, missing⟩ := (apart_made links).mp free
    obtain ⟨pair, atPair, ends⟩ := mem_newLink.mpr ⟨before, rfl⟩
    exact missing ⟨pair, List.mem_flatMap.mpr ⟨m, member, List.mem_append_left _ atPair⟩, ends⟩
  refine ⟨there, ?_⟩
  have out : newLink (edges ++ made) tag id m = [] := if_neg (by simp [there])
  cases bidirectional with
  | false => rw [linksFor, out, if_neg Bool.false_ne_true, List.append_nil]
  | true =>
    have back : apart (edges ++ made) tag m.entity id = false := by
      refine Bool.eq_false_iff.mpr fun free => ?_
      obtain ⟨before, missing⟩ := (apart_made links).mp free
      obtain ⟨pair, atPair, ends⟩ := (mem_newLink (m := { m with entity := id })).mpr ⟨before, rfl⟩
      exact missing ⟨pair, List.mem_flatMap.mpr ⟨m, member, List.mem_append_right _ atPair⟩, ends⟩
    rw [linksFor, out, if_pos rfl, newLink, if_neg (by simp [back]), List.append_nil]

theorem linksFor_between {m : SimilarityMatch} {pair : String × SimilarityMatch}
    (member : pair ∈ linksFor edges tag id bidirectional m) :
    pair.1 = id ∧ pair.2.entity = m.entity ∨ pair.1 = m.entity ∧ pair.2.entity = id := by
  unfold linksFor newLink at member
  rcases List.mem_append.mp member with out | back
  · split at out
    · cases List.mem_singleton.mp out
      exact .inl ⟨rfl, rfl⟩
    · exact absurd out List.not_mem_nil
  · split at back
    · split at back
      · cases List.mem_singleton.mp back
        exact .inr ⟨rfl, rfl⟩
      · exact absurd back List.not_mem_nil
    · exact absurd back List.not_mem_nil

/-- The edges made for some matches change nothing for another one. -/
theorem apart_others {passed : List SimilarityMatch} {other : String}
    (links : List.Forall₂ (fun pair e => Joins clock pair.1 tag pair.2 e)
      (passed.flatMap (linksFor edges tag id bidirectional)) made)
    (unseen : other ∉ passed.map (·.entity)) (notSelf : other ≠ id) :
    apart (edges ++ made) tag id other = apart edges tag id other ∧
      apart (edges ++ made) tag other id = apart edges tag other id := by
  refine Between.apart (fun e member => ?_) notSelf
  obtain ⟨pair, atPair, source, target⟩ := (joins_ends_iff links).mp ⟨e, member, rfl, rfl⟩
  obtain ⟨m, atM, atLinks⟩ := List.mem_flatMap.mp atPair
  have different : other ≠ m.entity := fun same => unseen (List.mem_map.mpr ⟨m, atM, same.symm⟩)
  refine ⟨m.entity, ?_, different⟩
  rw [Between, ← source, ← target]
  exact linksFor_between atLinks

/-- Going through the same matches again makes the edges for those that were not reached before. -/
theorem linksTo_again {allowance : Int} {passed rest : List SimilarityMatch}
    (distinct : ((passed ++ rest).map (·.entity)).Nodup) (others : ∀ m ∈ rest, m.entity ≠ id)
    (links : List.Forall₂ (fun pair e => Joins clock pair.1 tag pair.2 e)
      (passed.flatMap (linksFor edges tag id bidirectional)) made) :
    linksTo (edges ++ made) tag id bidirectional allowance (passed ++ rest) =
      linksTo edges tag id bidirectional allowance rest := by
  rw [List.map_append] at distinct
  have unseen : ∀ m ∈ rest, m.entity ∉ passed.map (·.entity) := fun m member seen =>
    (List.nodup_append.mp distinct).2.2 _ seen _ (List.mem_map_of_mem member) rfl
  have same (m : SimilarityMatch) (member : m ∈ rest) :=
    apart_others links (unseen m member) (others m member)
  by_cases spent : allowance ≤ 0
  · simp only [linksTo, visited_spent spent, List.flatMap_nil]
  · have linked : ∀ m ∈ passed, apart (edges ++ made) tag id m.entity = false :=
      fun m member => (linksFor_made member links).1
    have nothing : passed.flatMap (linksFor (edges ++ made) tag id bidirectional) = [] :=
      List.flatMap_eq_nil_iff.mpr fun m member => (linksFor_made member links).2
    rw [linksTo, visited_unwanted (by omega) linked, List.flatMap_append, nothing, List.nil_append,
      visited_congr allowance fun m member => (same m member).1, linksTo]
    refine List.flatMap_congr fun m member => ?_
    have reached : m ∈ rest := (visited_shortest _ _ rest).isPrefix.subset member
    simp only [linksFor, newLink, same m reached]

theorem newMatches_of_distinct {seen : List String} {found : List SimilarityMatch}
    (distinct : (found.map (·.entity)).Nodup) (unseen : ∀ m ∈ found, m.entity ∉ seen) :
    newMatches seen found = found := by
  induction found generalizing seen with
  | nil => rfl
  | cons m rest ih =>
    obtain ⟨new, distinct⟩ := List.nodup_cons.mp distinct
    obtain ⟨here, later⟩ := List.forall_mem_cons.mp unseen
    have others : ∀ n ∈ rest, n.entity ∉ m.entity :: seen := by
      intro n member
      have different : n.entity ≠ m.entity := fun same => new (List.mem_map.mpr ⟨n, member, same⟩)
      exact List.not_mem_cons_of_ne_of_not_mem different (later n member)
    have unmet : ¬ seen.contains m.entity = true := by simpa using here
    rw [newMatches, if_neg unmet, ih distinct others]

/-- A search finds one entity more than may be linked. All are different, none of them is the entity itself,
and no edge leads yet to any but the last. -/
structure LeavesOne (edges : List Relationship) (tag id : String) (maxLinks : Int)
    (first : List SimilarityMatch) (last : SimilarityMatch) : Prop where
  some : first ≠ []
  count : first.length = maxLinks
  distinct : ((first ++ [last]).map (·.entity)).Nodup
  others : ∀ m ∈ first ++ [last], m.entity ≠ id
  unlinked : ∀ m ∈ first, ¬ ∃ e ∈ edges, e.source = id ∧ e.target = m.entity ∧ e.tag = tag

variable {maxLinks : Int} {found first : List SimilarityMatch} {last : SimilarityMatch}

theorem LeavesOne.distinctOthers (leaves : LeavesOne edges tag id maxLinks first last) :
    distinctOthers id (first ++ [last]) = first ++ [last] := by
  rw [← newMatches_self]
  exact newMatches_of_distinct leaves.distinct fun m member => by simpa using leaves.others m member

theorem LeavesOne.shortest (leaves : LeavesOne edges tag id maxLinks first last) :
    ShortestStart (fun m => apart edges tag id m.entity) maxLinks.toNat first (first ++ [last]) := by
  have count : maxLinks.toNat = first.length := by rw [← leaves.count, Int.toNat_natCast]
  rw [count]
  exact .of_all fun m member => apart_iff.mpr (leaves.unlinked m member)

/-- If a search keeps to the limit, then at most one of the entities found is not reached. -/
theorem leavesOne_of_rest {passed rest : List SimilarityMatch} (limited : found.length ≤ (maxLinks + 1).toNat)
    (positive : 0 < maxLinks) (others : distinctOthers id found = passed ++ rest) (left : rest ≠ [])
    (shortest : ShortestStart (fun m => apart edges tag id m.entity) maxLinks.toNat passed (passed ++ rest)) :
    ∃ last, found = passed ++ [last] ∧ LeavesOne edges tag id maxLinks passed last := by
  obtain ⟨last, more, rfl⟩ := List.exists_cons_of_ne_nil left
  have sublist : (passed ++ last :: more).Sublist found := by
    rw [← others, ← newMatches_self]
    exact newMatches_sublist [id] found
  have reached := shortest.countP_eq
  have counted : passed.countP (fun m => apart edges tag id m.entity) ≤ passed.length :=
    List.countP_le_length
  have length := sublist.length_le
  rw [List.length_append, List.length_cons] at length
  obtain rfl : more = [] := List.eq_nil_of_length_eq_zero (by omega)
  have whole : found = passed ++ [last] := by
    refine (sublist.eq_of_length ?_).symm
    rw [List.length_append, List.length_singleton]
    omega
  have all : passed.countP (fun m => apart edges tag id m.entity) = passed.length := by omega
  refine ⟨last, whole, ?_, by omega, ?_, ?_, ?_⟩
  · rintro rfl
    simp only [List.countP_nil] at reached
    omega
  · rw [← others, ← newMatches_self]
    exact newMatches_nodup [id] found
  · rw [← others]
    exact fun m member => distinctOthers_ne member
  · exact fun m member => apart_iff.mp (List.countP_eq_length.mp all m member)

/-- A second call goes on with the entities that the first one did not reach. -/
theorem linkNewEntity_goesOn (linker : Linker) {entity : Entity} {threshold : Number} (named : Option String)
    (bidirectional : Bool) (clock later : ℕ → DateTime) (known : store.entity? id = some entity)
    (answer : similar { text := entity.searchText, limit := maxLinks + 1, threshold } = .ok found) :
    let link := fun clock => (linker.linkNewEntity id threshold maxLinks named bidirectional).runOn clock similar
    let once := link clock store
    let tag := linker.tagOr named
    ∃ passed rest made, distinctOthers id found = passed ++ rest ∧
      ShortestStart (fun m => apart store.edges tag id m.entity) maxLinks.toNat passed (passed ++ rest) ∧
      link later once.2 = (.ok made.length, withEdges once.2 made) ∧
      List.Forall₂ (fun pair e => Joins later pair.1 tag pair.2 e)
        (linksTo store.edges tag id bidirectional maxLinks rest) made := by
  intro link once tag
  obtain ⟨before, run, links⟩ := linkNewEntity_found linker named bidirectional clock known answer
  have next : once.2 = withEdges store before := congrArg Prod.snd run
  have knownNext : once.2.entity? id = some entity := by
    rw [next]
    exact known
  obtain ⟨made, again, linksAgain⟩ := linkNewEntity_found linker named bidirectional later knownNext answer
  have shortest := visited_shortest (fun m => apart store.edges tag id m.entity) maxLinks (distinctOthers id found)
  obtain ⟨rest, split⟩ := shortest.isPrefix
  refine ⟨_, rest, made, split.symm, split.symm ▸ shortest, again, ?_⟩
  have distinct : ((distinctOthers id found).map (·.entity)).Nodup :=
    newMatches_self id found ▸ newMatches_nodup [id] found
  have others : ∀ m ∈ rest, m.entity ≠ id := by
    intro m member
    have atFound : m ∈ distinctOthers id found := split ▸ List.mem_append_right _ member
    exact distinctOthers_ne atFound
  have same : linksTo once.2.edges tag id bidirectional maxLinks (distinctOthers id found) =
      linksTo store.edges tag id bidirectional maxLinks rest := by
    rw [← split] at distinct
    rw [next, withEdges]
    exact (congrArg _ split.symm).trans (linksTo_again distinct others links)
  exact same ▸ linksAgain

section

variable {threshold : Number}

/-- A call changes nothing at any time, or it is about a stored entity whose search is answered. -/
theorem linkNewEntity_cases (linker : Linker) (id : String) (threshold : Number) (maxLinks : Int)
    (named : Option String) (bidirectional : Bool) (similar : Similarity) (store : GraphStore) :
    (∀ clock, (linker.linkNewEntity id threshold maxLinks named bidirectional).runOn clock similar store =
        (.ok 0, store)) ∨
      ∃ entity found, store.entity? id = some entity ∧
        similar { text := entity.searchText, limit := maxLinks + 1, threshold } = .ok found := by
  cases known : store.entity? id with
  | none =>
    exact .inl fun clock => linkNewEntity_unknown linker threshold maxLinks named bidirectional clock similar known
  | some entity =>
    cases answer : similar { text := entity.searchText, limit := maxLinks + 1, threshold } with
    | error failure => exact .inl fun clock => linkNewEntity_failed linker named bidirectional clock known answer
    | ok found => exact .inr ⟨entity, found, rfl, answer⟩

theorem linkNewEntity_entities (linker : Linker) (id : String) (threshold : Number) (maxLinks : Int)
    (named : Option String) (bidirectional : Bool) (clock : ℕ → DateTime) (similar : Similarity) (store : GraphStore) :
    ((linker.linkNewEntity id threshold maxLinks named bidirectional).runOn clock similar store).2.entities =
      store.entities := by
  rcases linkNewEntity_cases linker id threshold maxLinks named bidirectional similar store with
    idle | ⟨entity, found, known, answer⟩
  · rw [idle clock]
  · obtain ⟨made, run, _⟩ := linkNewEntity_found linker named bidirectional clock known answer
    rw [run, withEdges]

/-- What one call has linked, the next one finds linked. -/
theorem not_leavesOne_again (linker : Linker) {entity : Entity} (named : Option String) (bidirectional : Bool)
    (clock : ℕ → DateTime) (known : store.entity? id = some entity)
    (answer : similar { text := entity.searchText, limit := maxLinks + 1, threshold } = .ok (first ++ [last])) :
    ¬ LeavesOne ((linker.linkNewEntity id threshold maxLinks named bidirectional).runOn clock similar
      store).2.edges (linker.tagOr named) id maxLinks first last := by
  intro leaves
  obtain ⟨made, run, links⟩ := linkNewEntity_found linker named bidirectional clock known answer
  rw [leaves.distinctOthers] at links
  rw [run, withEdges] at leaves
  have some := leaves.some
  obtain ⟨m, more, rfl⟩ := List.exists_cons_of_ne_nil some
  have positive : ¬ maxLinks ≤ 0 := by
    have count := leaves.count
    rw [List.length_cons] at count
    omega
  have reached : m ∈ visited (fun m => apart store.edges (linker.tagOr named) id m.entity) maxLinks
      (m :: more ++ [last]) := by
    rw [List.cons_append, visited, if_neg positive]
    exact List.mem_cons_self
  have linked := (linksFor_made reached links).1
  have free := apart_iff.mpr (leaves.unlinked m List.mem_cons_self)
  exact Bool.false_ne_true (linked.symm.trans free)

/-- Nothing is left to a second call if the first one has reached all that was found. -/
theorem linkNewEntity_settled (linker : Linker) {entity : Entity} (named : Option String) (bidirectional : Bool)
    (clock later : ℕ → DateTime) (known : store.entity? id = some entity)
    (answer : similar { text := entity.searchText, limit := maxLinks + 1, threshold } = .ok found)
    (limited : found.length ≤ (maxLinks + 1).toNat)
    (reached : ¬ ∃ first last, found = first ++ [last] ∧
      LeavesOne store.edges (linker.tagOr named) id maxLinks first last) :
    let link := fun clock => (linker.linkNewEntity id threshold maxLinks named bidirectional).runOn clock similar
    link later (link clock store).2 = (.ok 0, (link clock store).2) := by
  intro link
  obtain ⟨passed, rest, made, split, shortest, again, links⟩ :=
    linkNewEntity_goesOn linker named bidirectional clock later known answer
  have none : linksTo store.edges (linker.tagOr named) id bidirectional maxLinks rest = [] := by
    by_cases positive : 0 < maxLinks
    · have empty : rest = [] := by
        by_contra left
        obtain ⟨last, whole, leaves⟩ := leavesOne_of_rest limited positive split left shortest
        exact reached ⟨passed, last, whole, leaves⟩
      rw [empty]
      rfl
    · rw [linksTo, visited_spent (by omega), List.flatMap_nil]
  obtain rfl : made = [] := List.forall₂_nil_left_iff.mp (none ▸ links)
  exact again.trans (Prod.ext rfl (withEdges_nil _))

/-- The one entity that is left gets the edges that are missing. -/
theorem linkNewEntity_spare (linker : Linker) {entity : Entity} (named : Option String) (bidirectional : Bool)
    (clock later : ℕ → DateTime) (known : store.entity? id = some entity)
    (answer : similar { text := entity.searchText, limit := maxLinks + 1, threshold } = .ok (first ++ [last]))
    (leaves : LeavesOne store.edges (linker.tagOr named) id maxLinks first last) :
    let link := fun clock => (linker.linkNewEntity id threshold maxLinks named bidirectional).runOn clock similar
    let once := link clock store
    ∃ made, link later once.2 = (.ok made.length, withEdges once.2 made) ∧
      List.Forall₂ (fun pair e => Joins later pair.1 (linker.tagOr named) pair.2 e)
        (linksFor store.edges (linker.tagOr named) id bidirectional last) made := by
  intro link once
  obtain ⟨passed, rest, made, split, shortest, again, links⟩ :=
    linkNewEntity_goesOn linker named bidirectional clock later known answer
  rw [leaves.distinctOthers] at split
  obtain rfl : first = passed := leaves.shortest.unique (split ▸ shortest)
  obtain rfl : [last] = rest := List.append_cancel_left split
  refine ⟨made, again, ?_⟩
  have positive : ¬ maxLinks ≤ 0 := by
    have some := List.length_pos_iff.mpr leaves.some
    have count := leaves.count
    omega
  have one : linksTo store.edges (linker.tagOr named) id bidirectional maxLinks [last] =
      linksFor store.edges (linker.tagOr named) id bidirectional last := by
    rw [linksTo, visited, if_neg positive, visited, List.flatMap_singleton]
  exact one ▸ links

end

/-- A second call for an entity changes nothing, unless the search has found one entity more than may be
linked, and the first call has linked all of them but the last. Then the second call makes the edges between
the entity and the last one that are missing, and a third call changes nothing. -/
theorem linkNewEntity_again (linker : Linker) (id : String) (threshold : Number) (maxLinks : Int)
    (named : Option String) (bidirectional : Bool) {similar : Similarity}
    (limited : ∀ terms found, similar terms = .ok found → found.length ≤ terms.limit.toNat)
    (clock later latest : ℕ → DateTime) (store : GraphStore) :
    let link := fun clock => (linker.linkNewEntity id threshold maxLinks named bidirectional).runOn clock similar
    let once := link clock store
    let twice := link later once.2
    let tag := linker.tagOr named
    let unlinked := fun source target => !store.edges.any (GraphStore.joins source target (some tag))
    let spare := fun first last => ∃ entity, store.entity? id = some entity ∧
      similar { text := entity.searchText, limit := maxLinks + 1, threshold } = .ok (first ++ [last]) ∧
      LeavesOne store.edges tag id maxLinks first last
    ((¬ ∃ first last, spare first last) → twice = (.ok 0, once.2)) ∧
      (∀ first last, spare first last → ∃ made, twice.1 = .ok made.length ∧
        twice.2.entities = once.2.entities ∧ twice.2.edges = once.2.edges ++ made ∧
        List.Forall₂ (fun link e => e.source = link.1 ∧ e.target = link.2.1 ∧ e.tag = tag ∧
            e.metadata = [("discoveredBy", .str "semantic"), ("similarity", .ofNumber link.2.2)] ∧
            Similarity.IsClamped link.2.2 e.weight ∧ ∃ n, e.createdAt = later n)
          ((if unlinked id last.entity then [(id, last.entity, last.score)] else []) ++
            if bidirectional && unlinked last.entity id then [(last.entity, id, last.score)] else []) made) ∧
      link latest twice.2 = (.ok 0, twice.2) := by
  intro link once twice tag unlinked spare
  have settled (start : GraphStore) (clock later : ℕ → DateTime) (reached : ¬ ∃ first last, ∃ entity,
      start.entity? id = some entity ∧
      similar { text := entity.searchText, limit := maxLinks + 1, threshold } = .ok (first ++ [last]) ∧
      LeavesOne start.edges tag id maxLinks first last) :
      link later (link clock start).2 = (.ok 0, (link clock start).2) := by
    rcases linkNewEntity_cases linker id threshold maxLinks named bidirectional similar start with
      idle | ⟨entity, found, known, answer⟩
    · have same : link clock start = (.ok 0, start) := idle clock
      rw [same]
      exact idle later
    · refine linkNewEntity_settled linker named bidirectional clock later known answer (limited _ _ answer) ?_
      rintro ⟨first, last, rfl, leaves⟩
      exact reached ⟨first, last, entity, known, answer, leaves⟩
  refine ⟨settled store clock later, ?_, ?_⟩
  · rintro first last ⟨entity, known, answer, leaves⟩
    obtain ⟨made, again, links⟩ := linkNewEntity_spare linker named bidirectional clock later known answer leaves
    refine ⟨made, congrArg Prod.fst again, congrArg (fun run => run.2.entities) again,
      congrArg (fun run => run.2.edges) again, ?_⟩
    have ends := linksFor_ends store.edges tag id bidirectional last
    refine ends ▸ List.forall₂_map_left_iff.mpr (links.imp fun pair e joins => ?_)
    have clamped : Similarity.IsClamped pair.2.score e.weight :=
      joins.weight ▸ Similarity.isClamped_weight pair.2.score
    exact ⟨joins.source, joins.target, joins.tag, joins.metadata, clamped, joins.createdAt⟩
  · refine settled once.2 later latest ?_
    rintro ⟨first, last, entity, knownNext, answer, leaves⟩
    have known : store.entity? id = some entity := by
      rw [GraphStore.entity?, ← linkNewEntity_entities linker id threshold maxLinks named bidirectional clock
        similar store]
      exact knownNext
    exact not_leavesOne_again linker named bidirectional clock known answer leaves

/-- Two entities are found for one, in this order. -/
def pairSimilarity : Similarity := fun terms =>
  .ok ([⟨"b", .float 0.9, none⟩, ⟨"c", .float 0.75, none⟩].take terms.limit.toNat)

theorem pairSimilarity_limited (terms : SimilaritySearch) (found : List SimilarityMatch)
    (answer : pairSimilarity terms = .ok found) : found.length ≤ terms.limit.toNat := by
  cases answer
  exact List.length_take_le _ _

/-- Three entities that nothing joins. -/
def unlinkedSample : GraphStore :=
  let requests : List GraphRequest := [.upsert (sampleEntity "a"), .upsert (sampleEntity "b"),
    .upsert (sampleEntity "c")]
  GraphStore.serve (requests.map fun request => ⟨default, fun _ => .ok [], request⟩) .empty

/-- A search that keeps to the limit and does not find the entity itself leaves one edge to a second call. -/
theorem linkNewEntity_again_creates :
    let link := (({} : Linker).linkNewEntity "a" (.float 0.75) 1).runOn (fun _ => default) pairSimilarity
    let once := link unlinkedSample
    let twice := link once.2
    (∀ terms found, pairSimilarity terms = .ok found → found.length ≤ terms.limit.toNat) ∧
      once.1.toOption = some 1 ∧ twice.1.toOption = some 1 ∧
      once.2.edges.map (fun e => (e.source, e.target)) = [("a", "b")] ∧
      twice.2.edges.map (fun e => (e.source, e.target)) = [("a", "b"), ("a", "c")] :=
  ⟨pairSimilarity_limited, by decide +kernel, by decide +kernel, by decide +kernel, by decide +kernel⟩

/-- With one link allowed a second call makes another edge, and with two it changes nothing. -/
theorem linkNewEntity_again_pair :
    let link := fun maxLinks => (({} : Linker).linkNewEntity "a" (.float 0.75) maxLinks none true).runOn
      (fun _ => default) pairSimilarity
    let once := fun maxLinks => link maxLinks unlinkedSample
    let twice := fun maxLinks => link maxLinks (once maxLinks).2
    (∀ terms found, pairSimilarity terms = .ok found → found.length ≤ terms.limit.toNat) ∧
      (∃ made, (twice 1).1 = .ok 2 ∧ (twice 1).2.edges = (once 1).2.edges ++ made ∧
        made.map (fun e => (e.source, e.target)) = [("a", "c"), ("c", "a")]) ∧
      link 1 (twice 1).2 = (.ok 0, (twice 1).2) ∧ twice 2 = (.ok 0, (once 2).2) := by
  intro link once twice
  have again (maxLinks : Int) := linkNewEntity_again {} "a" (.float 0.75) maxLinks none true
    pairSimilarity_limited (fun _ => default) (fun _ => default) (fun _ => default) unlinkedSample
  have known : unlinkedSample.entity? "a" = some (sampleEntity "a") := rfl
  let first : List SimilarityMatch := [⟨"b", .float 0.9, none⟩]
  let last : SimilarityMatch := ⟨"c", .float 0.75, none⟩
  have leaves : LeavesOne unlinkedSample.edges "RELATES_TO" "a" 1 first last :=
    ⟨by decide, rfl, by decide, by decide, by decide +kernel⟩
  obtain ⟨made, count, _, edges, links⟩ := (again 1).2.1 first last ⟨_, known, rfl, leaves⟩
  have both : List.Forall₂ _ [("a", "c", Number.float 0.75), ("c", "a", Number.float 0.75)] made := links
  obtain _ | ⟨⟨source, target, _⟩, _ | ⟨⟨sourceBack, targetBack, _⟩, ⟨⟩⟩⟩ := both
  refine ⟨pairSimilarity_limited, ⟨_, count, edges, ?_⟩, (again 1).2.2, (again 2).1 ?_⟩
  · rw [List.map_cons, List.map_cons, source, target, sourceBack, targetBack, List.map_nil]
  · rintro ⟨first, last, entity, _, answer, leaves⟩
    have found : [⟨"b", .float 0.9, none⟩, ⟨"c", .float 0.75, none⟩] = first ++ [last] := Except.ok.inj answer
    have length := congrArg List.length found
    have two := leaves.count
    rw [List.length_append, List.length_singleton] at length
    simp only [List.length_cons, List.length_nil] at length
    omega

end Linker

end CodeGraph
