import CodeGraph.Proofs.Linking.Visiting

namespace CodeGraph

namespace Linker

variable {store : GraphStore} {clock : ℕ → DateTime} {similar : Similarity} {id : String}

/-- Whether a match is with a stored entity to which no edge leads. -/
def isOpen (store : GraphStore) (id : String) (m : SimilarityMatch) : Bool :=
  !store.hasEdge id m.entity none && (store.entity? m.entity).isSome

/-- The matches for which suggestions are made. -/
def picked (store : GraphStore) (id : String) (limit : Int) (found : List SimilarityMatch) :
    List SimilarityMatch :=
  (found.filter (isOpen store id)).take limit.toNat

/-- A suggestion as it is made for a match. -/
structure Suggests (store : GraphStore) (entity : Entity) (m : SimilarityMatch) (suggestion : LinkSuggestion) :
    Prop where
  stored : store.entity? m.entity = some suggestion.entity
  similarity : Reader.float (.ofNumber m.score) = .ok suggestion.similarity
  reason : Similarity.reason entity.kind suggestion.entity.kind m.score = .ok suggestion.reason

theorem picked_closed {m : SimilarityMatch} {rest : List SimilarityMatch} (limit : Int)
    (closed : isOpen store id m = false) : picked store id limit (m :: rest) = picked store id limit rest := by
  rw [picked, picked, List.filter_cons_of_neg (by simp [closed])]

theorem picked_open {m : SimilarityMatch} {rest : List SimilarityMatch} {limit : Int} (left : ¬ limit ≤ 0)
    (isOpen : isOpen store id m = true) :
    picked store id limit (m :: rest) = m :: picked store id (limit - 1) rest := by
  have count : limit.toNat = (limit - 1).toNat + 1 := by omega
  rw [picked, picked, List.filter_cons_of_pos isOpen, count, List.take_succ_cons]

theorem similarity_run (clock : ℕ → DateTime) (similar : Similarity) (title : String) (score : Number)
    (store : GraphStore) :
    ∃ result, (similarity title score).runOn clock similar store = (result, store) ∧
      ∀ x, result = .ok x ↔ Reader.float (.ofNumber score) = .ok x := by
  unfold similarity
  cases Reader.float (.ofNumber score) with
  | error issues => exact ⟨.error _, rfl, fun x => ⟨nofun, nofun⟩⟩
  | ok x => exact ⟨.ok x, rfl, fun y => by simp⟩

/-- No call is made to read a score. -/
theorem similarity_after (clock : ℕ → DateTime) (similar : Similarity) (title : String) (score : Number)
    (store : GraphStore) : (similarity title score).after clock similar store = clock := by
  unfold similarity
  cases Reader.float (.ofNumber score) <;> rfl

/-- The suggestion for a match comes first, and without it there are none. -/
theorem suggestion_run (clock : ℕ → DateTime) (similar : Similarity) (entity : Entity) {m : SimilarityMatch}
    {other : Entity} (known : store.entity? m.entity = some other) (rest : GraphTask (List LinkSuggestion)) :
    ∃ shown : Except StoreFailure LinkSuggestion, (∀ s, shown = .ok s ↔ Suggests store entity m s) ∧
      GraphTask.runOn clock similar
          (match Similarity.reason entity.kind other.kind m.score with
          | .error fault => throw (.number fault)
          | .ok reason => do
            let similarity ← similarity "LinkSuggestion" m.score
            return ⟨other, similarity, reason⟩ :: (← rest)) store =
        match shown with
        | .error failure => (.error failure, store)
        | .ok s => ((rest.runOn clock similar store).1.map (s :: ·), (rest.runOn clock similar store).2) := by
  cases why : Similarity.reason entity.kind other.kind m.score with
  | error fault =>
    refine ⟨.error (.number fault), fun s => ⟨nofun, fun suggests => ?_⟩, rfl⟩
    have same : other = s.entity := Option.some.inj (known.symm.trans suggests.stored)
    have reason := suggests.reason
    rw [← same, why] at reason
    cases reason
  | ok reason =>
    obtain ⟨read, run, reads⟩ := similarity_run clock similar "LinkSuggestion" m.score store
    refine ⟨read.map (⟨other, ·, reason⟩), fun s => ⟨fun shown => ?_, fun suggests => ?_⟩, ?_⟩
    · cases read with
      | error failure => exact nomatch shown
      | ok x =>
        cases shown
        exact ⟨known, (reads x).mp rfl, why⟩
    · have same : other = s.entity := Option.some.inj (known.symm.trans suggests.stored)
      have sameReason : reason = s.reason := Except.ok.inj (why.symm.trans (same ▸ suggests.reason))
      rw [(reads s.similarity).mpr suggests.similarity, same, sameReason]
      rfl
    · dsimp only
      rw [GraphTask.runOn_bind, run]
      cases read with
      | error failure => rfl
      | ok x =>
        dsimp only
        rw [similarity_after, GraphTask.runOn_bind]
        rcases rest.runOn clock similar store with ⟨_ | _, _⟩ <;> rfl

/-- A suggestion for each of the matches picked, or no suggestions at all. -/
theorem suggest_run (clock : ℕ → DateTime) (similar : Similarity) (entity : Entity) (limit : Int)
    (found : List SimilarityMatch) (store : GraphStore) :
    ∃ result, (suggest entity limit found).runOn clock similar store = (result, store) ∧
      ∀ given, result = .ok given ↔
        List.Forall₂ (Suggests store entity) (picked store entity.id limit found) given := by
  -- For any limit, as one less is left after a suggestion, and at any time.
  induction found generalizing clock limit with
  | nil => exact ⟨.ok [], rfl, fun given => by simp [picked, eq_comm]⟩
  | cons m rest ih =>
    unfold suggest
    by_cases spent : limit ≤ 0
    · rw [if_pos spent]
      have none : picked store entity.id limit (m :: rest) = [] := by
        rw [picked, Int.toNat_of_nonpos spent, List.take_zero]
      exact ⟨.ok [], rfl, fun given => by simp [none, eq_comm]⟩
    rw [if_neg spent, GraphTask.runOn_bind, GraphTask.runOn_hasEdge]
    dsimp only
    by_cases there : store.hasEdge entity.id m.entity none = true
    · rw [if_pos there, picked_closed limit (by simp [isOpen, there])]
      exact ih _ limit
    rw [if_neg there, GraphTask.runOn_bind, GraphTask.runOn_entity?]
    dsimp only
    cases known : store.entity? m.entity with
    | none =>
      rw [picked_closed limit (by simp [isOpen, known])]
      exact ih _ limit
    | some other =>
      rw [picked_open spent (by simp [isOpen, there, known])]
      obtain ⟨shown, shows, run⟩ :=
        suggestion_run _ similar entity known (suggest entity (limit - 1) rest)
      obtain ⟨later, laterRun, given⟩ := ih _ (limit - 1)
      rw [laterRun] at run
      cases shown with
      | error failure =>
        refine ⟨.error failure, run, fun all => iff_of_false (fun same => by cases same) fun suggests => ?_⟩
        obtain ⟨s, _, made, -, -⟩ := List.forall₂_cons_left_iff.mp suggests
        have shown := (shows s).mpr made
        cases shown
      | ok s =>
        have first (other : LinkSuggestion) : Suggests store entity m other ↔ s = other := by
          rw [← shows other, Except.ok.injEq]
        refine ⟨later.map (s :: ·), run, fun all => ?_⟩
        simp only [List.forall₂_cons_left_iff, first, ← given, exists_eq_left', exists_and_left]
        cases later with
        | error failure => simp [Except.map]
        | ok more => simp [Except.map, eq_comm]

/-- A score that can be shown in hundredths, and as a floating-point number. -/
def Shown : Number → Prop
  | .int i => (Decimal.ofInt? i).isSome
  | .float x => (x * 100.0).isNaN = false ∧ (x * 100.0).isInf = false

theorem shown_iff (score : Number) : Shown score ↔
    (∃ percent, score.percent = .ok percent) ∧ ∃ x, Reader.float (.ofNumber score) = .ok x := by
  cases score with
  | int i =>
    have reads : (∃ x, Reader.float (.ofNumber (.int i)) = .ok x) ↔ (Decimal.ofInt? i).isSome := by
      simp only [Json.ofNumber, Reader.float]
      cases Decimal.ofInt? i with
      | none => exact ⟨nofun, nofun⟩
      | some x => exact ⟨fun _ => rfl, fun _ => ⟨x, rfl⟩⟩
    exact ⟨fun shown => ⟨⟨100 * i, rfl⟩, reads.mpr shown⟩, fun both => reads.mp both.2⟩
  | float x =>
    have scaled : (∃ percent, Number.percent (.float x) = .ok percent) ↔ Shown (.float x) := by
      simp only [Number.percent, Shown]
      cases (x * 100.0).isNaN <;> cases (x * 100.0).isInf <;> simp
    exact ⟨fun shown => ⟨scaled.mpr shown, x, rfl⟩, fun both => scaled.mp both.1⟩

theorem suggests_iff (entity : Entity) {m : SimilarityMatch} {other : Entity}
    (known : store.entity? m.entity = some other) : (∃ s, Suggests store entity m s) ↔ Shown m.score := by
  have worded : (∃ reason, Similarity.reason entity.kind other.kind m.score = .ok reason) ↔
      ∃ percent, m.score.percent = .ok percent := by
    rw [Similarity.reason]
    cases m.score.percent with
    | error fault => exact ⟨nofun, nofun⟩
    | ok percent => exact ⟨fun _ => ⟨percent, rfl⟩, fun _ => ⟨_, rfl⟩⟩
  rw [shown_iff, ← worded]
  constructor
  · intro ⟨s, suggests⟩
    have same : other = s.entity := Option.some.inj (known.symm.trans suggests.stored)
    exact ⟨⟨s.reason, same ▸ suggests.reason⟩, s.similarity, suggests.similarity⟩
  · intro ⟨⟨reason, why⟩, x, read⟩
    exact ⟨⟨other, x, reason⟩, known, read, why⟩

theorem exists_forall₂_iff {α β : Type} {r : α → β → Prop} {items : List α} :
    (∃ others, List.Forall₂ r items others) ↔ ∀ a ∈ items, ∃ b, r a b := by
  induction items with
  | nil => simp
  | cons a rest ih =>
    rw [List.forall_mem_cons, ← ih]
    constructor
    · rintro ⟨_, suggests⟩
      obtain ⟨b, others, here, later, -⟩ := List.forall₂_cons_left_iff.mp suggests
      exact ⟨⟨b, here⟩, others, later⟩
    · rintro ⟨⟨b, here⟩, others, later⟩
      exact ⟨b :: others, .cons here later⟩

theorem suggests_ids {entity : Entity} {matched : List SimilarityMatch} {given : List LinkSuggestion}
    (suggests : List.Forall₂ (Suggests store entity) matched given) :
    given.map (·.entity.id) = matched.map (·.entity) := by
  induction suggests with
  | nil => rfl
  | cons here _ ih => rw [List.map_cons, List.map_cons, ih, (GraphStore.entity_some here.stored).2]

theorem suggestions_unknown (limit : Int) (threshold : Number) (clock : ℕ → DateTime) (similar : Similarity)
    (unknown : store.entity? id = none) :
    (suggestions id limit threshold).runOn clock similar store = (.ok [], store) := by
  rw [suggestions, GraphTask.runOn_bind, GraphTask.runOn_entity?, unknown]
  rfl

theorem suggestions_failed {entity : Entity} {limit : Int} {threshold : Number} {failure : StoreFailure}
    (clock : ℕ → DateTime) (known : store.entity? id = some entity)
    (answer : similar { text := entity.searchText, limit := limit * 2, threshold } = .error failure) :
    (suggestions id limit threshold).runOn clock similar store = (.ok [], store) := by
  simp only [suggestions, GraphTask.runOn_bind, GraphTask.runOn_entity?, known, GraphTask.runOn_attempt,
    candidates_run, answer, Except.map, GraphTask.runOn_pure]

theorem suggestions_run {entity : Entity} {limit : Int} {threshold : Number} {found : List SimilarityMatch}
    (clock : ℕ → DateTime) (known : store.entity? id = some entity)
    (answer : similar { text := entity.searchText, limit := limit * 2, threshold } = .ok found) :
    ∃ result, (suggestions id limit threshold).runOn clock similar store = (result, store) ∧
      ∀ given, result = .ok given ↔
        List.Forall₂ (Suggests store entity) (picked store id limit (distinctOthers id found)) given := by
  have sameId : entity.id = id := (GraphStore.entity_some known).2
  simp only [suggestions, GraphTask.runOn_bind, GraphTask.runOn_entity?, known, GraphTask.runOn_attempt,
    candidates_run, answer, Except.map, sameId]
  exact sameId ▸ suggest_run _ similar entity limit (distinctOthers entity.id found) store

theorem picked_sublist (store : GraphStore) (id : String) (limit : Int) (found : List SimilarityMatch) :
    (picked store id limit found).Sublist found :=
  (List.take_sublist _ _).trans List.filter_sublist

theorem picked_spec {limit : Int} {found : List SimilarityMatch} {m : SimilarityMatch}
    (member : m ∈ picked store id limit found) : (∃ other, store.entity? m.entity = some other) ∧
      ∀ e ∈ store.edges, ¬ (e.source = id ∧ e.target = m.entity) := by
  have allowed : isOpen store id m = true := (List.mem_filter.mp (List.mem_of_mem_take member)).2
  rw [isOpen, Bool.and_eq_true, Bool.not_eq_true', GraphStore.hasEdge, List.any_eq_false] at allowed
  refine ⟨Option.isSome_iff_exists.mp allowed.2, fun e there ends => allowed.1 e there ?_⟩
  simp [GraphStore.joins, ends.1, ends.2]

theorem picked_nodup (store : GraphStore) (id : String) (limit : Int) (found : List SimilarityMatch) :
    ((picked store id limit (distinctOthers id found)).map (·.entity)).Nodup := by
  have distinct : ((distinctOthers id found).map (·.entity)).Nodup :=
    newMatches_self id found ▸ newMatches_nodup [id] found
  exact distinct.sublist ((picked_sublist store id limit _).map _)

theorem suggests_exists {entity : Entity} {matched : List SimilarityMatch} {given : List LinkSuggestion}
    (suggests : List.Forall₂ (Suggests store entity) matched given) {s : LinkSuggestion} (member : s ∈ given) :
    ∃ m ∈ matched, Suggests store entity m s := by
  induction suggests with
  | nil => exact absurd member List.not_mem_nil
  | cons here _ ih =>
    rcases List.mem_cons.mp member with rfl | later
    · exact ⟨_, List.mem_cons_self, here⟩
    · obtain ⟨m, among, made⟩ := ih later
      exact ⟨m, List.mem_cons_of_mem _ among, made⟩

/-- Nothing is suggested for an entity that is not stored, or one for which the search fails. Otherwise, if the
scores can be shown, the first of the other entities found are suggested that are stored and to which no edge
leads from the entity, each once and as many as are allowed. They are not joined to the entity if and only if no
edge leads from one of them to it. -/
theorem suggestions_found (id : String) (limit : Int) (threshold : Number) (similar : Similarity)
    (clock : ℕ → DateTime) (store : GraphStore) :
    let run := (suggestions id limit threshold).runOn clock similar store
    (store.entity? id = none → run = (.ok [], store)) ∧
      ∀ entity, store.entity? id = some entity →
        match similar { text := entity.searchText, limit := limit * 2, threshold } with
        | .error _ => run = (.ok [], store)
        | .ok found =>
          let others := (found.filter (·.entity != id)).eraseDupsBy fun m n => m.entity == n.entity
          let picked := (others.filter fun m => !store.edges.any (GraphStore.joins id m.entity none) &&
            (store.entity? m.entity).isSome).take limit.toNat
          run.2 = store ∧ ((∃ given, run.1 = .ok given) ↔ ∀ m ∈ picked, Shown m.score) ∧
            ∀ given, run.1 = .ok given →
              given.length ≤ limit.toNat ∧ (given.map (·.entity.id)).Nodup ∧
              (given.map (·.entity.id)).Sublist (found.map (·.entity)) ∧
              (∀ s ∈ given, s.entity ∈ store.entities ∧ s.entity.id ≠ id ∧
                ∀ e ∈ store.edges, ¬ (e.source = id ∧ e.target = s.entity.id)) ∧
              List.Forall₂ (fun m s => m.entity = s.entity.id ∧ Reader.float (.ofNumber m.score) = .ok s.similarity ∧
                Similarity.reason entity.kind s.entity.kind m.score = .ok s.reason) picked given ∧
              ((∀ s ∈ given, ∀ e ∈ store.edges, ¬ (e.source = id ∧ e.target = s.entity.id ∨
                  e.source = s.entity.id ∧ e.target = id)) ↔
                ∀ m ∈ picked, ∀ e ∈ store.edges, ¬ (e.source = m.entity ∧ e.target = id)) := by
  intro run
  refine ⟨suggestions_unknown limit threshold clock similar, fun entity known => ?_⟩
  split
  · rename_i failure answer
    exact suggestions_failed clock known answer
  · rename_i found answer
    intro others picked
    obtain ⟨result, all, gives⟩ := suggestions_run clock known answer
    have same : run.1 = result := congrArg Prod.fst all
    refine ⟨congrArg Prod.snd all, ?_, fun given outcome => ?_⟩
    · have shown : (∃ given, List.Forall₂ (Suggests store entity) picked given) ↔ ∀ m ∈ picked, Shown m.score := by
        rw [exists_forall₂_iff]
        refine forall₂_congr fun m member => ?_
        obtain ⟨other, stored⟩ := (picked_spec member).1
        exact suggests_iff entity stored
      rw [same, ← shown]
      exact exists_congr gives
    · have suggests := (gives given).mp (same.symm.trans outcome)
      have ids : given.map (·.entity.id) = picked.map (·.entity) := suggests_ids suggests
      refine ⟨?_, ?_, ?_, fun s member => ?_, ?_, ?_⟩
      · exact suggests.length_eq.symm.trans_le (List.length_take_le _ _)
      · exact ids ▸ picked_nodup store id limit found
      · have fromFound : (distinctOthers id found).Sublist found :=
          newMatches_self id found ▸ newMatches_sublist [id] found
        exact ids ▸ ((picked_sublist store id limit _).trans fromFound).map _
      · obtain ⟨m, among, made⟩ := suggests_exists suggests member
        obtain ⟨stored, sameId⟩ := GraphStore.entity_some made.stored
        have other : m.entity ≠ id := distinctOthers_ne ((picked_sublist store id limit _).subset among)
        exact ⟨stored, sameId ▸ other, sameId ▸ (picked_spec among).2⟩
      · exact suggests.imp fun m s made =>
          ⟨(GraphStore.entity_some made.stored).2.symm, made.similarity, made.reason⟩
      · have sameIds (p : String → Prop) : (∀ s ∈ given, p s.entity.id) ↔ ∀ m ∈ picked, p m.entity := by
          rw [← List.forall_mem_map, ids, List.forall_mem_map]
        rw [sameIds fun other => ∀ e ∈ store.edges, ¬ (e.source = id ∧ e.target = other ∨
          e.source = other ∧ e.target = id)]
        refine forall₂_congr fun m among => forall₂_congr fun e there => ?_
        rw [not_or]
        exact and_iff_right ((picked_spec among).2 e there)

/-- The entity that is suggested is joined to the other one already, by an edge from it. -/
theorem suggestions_joined :
    let calls : Relationship :=
      { id := "e", source := "b", target := "a", tag := "calls", weight := 1.0, metadata := [], createdAt := default }
    let store : GraphStore := { entities := [sampleEntity "a", sampleEntity "b"], edges := [calls] }
    let similar : Similarity := fun _ => .ok [⟨"b", .float 0.9, none⟩]
    let run := (suggestions "a").runOn (fun _ => default) similar store
    run.1.toOption.map (List.map (·.entity.id)) = some ["b"] ∧
      store.edges.map (fun e => (e.source, e.target)) = [("b", "a")] := by
  decide +kernel

end Linker

end CodeGraph
