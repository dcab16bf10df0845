import CodeGraph.Proofs.Linking.Relinking

namespace CodeGraph

namespace Linker

variable {store : GraphStore} {similar : Similarity}

def isWeak (linker : Linker) (least : Number) (edge : Relationship) : Bool :=
  edge.tag == linker.tag && edge.isSemantic && decide (edge.weight < least.nearest)

/-- The larger of two bounds, or the other one where one of them is no number. -/
def larger (first second : Number) : Number :=
  if first.nearest ≤ second.nearest then second
  else if first.nearest ≤ first.nearest then first
  else second

theorem larger_eq (first second : Number) : larger first second = first ∨ larger first second = second := by
  unfold larger
  split
  · exact .inr rfl
  · split
    · exact .inl rfl
    · exact .inr rfl

theorem lt_larger_iff {first second : Number} {x : Float} :
    x < (larger first second).nearest ↔ x < first.nearest ∨ x < second.nearest := by
  unfold larger
  split
  · rename_i below
    exact ⟨.inr, fun either => either.elim (Decimal.lt_trans_le · below) id⟩
  · rename_i above
    split
    · rename_i number
      refine ⟨.inl, fun either => either.elim id fun less => ?_⟩
      have order : second.nearest < first.nearest :=
        Decimal.lt_of_not_le number (Decimal.le_self_of_lt less) above
      exact Decimal.lt_trans less order
    · rename_i nothing
      exact ⟨.inr, fun either => either.elim (fun less => absurd (Decimal.le_self_of_lt less) nothing) id⟩

theorem isWeak_larger (linker : Linker) (first second : Number) (edge : Relationship) :
    linker.isWeak (larger first second) edge = (linker.isWeak first edge || linker.isWeak second edge) := by
  have either : decide (edge.weight < (larger first second).nearest) =
      (decide (edge.weight < first.nearest) || decide (edge.weight < second.nearest)) := by
    rw [← Bool.decide_or, decide_eq_decide]
    exact lt_larger_iff
  rw [isWeak, isWeak, isWeak, either, Bool.and_or_distrib_left]

/-- Among stored edges with different ids, each unwanted one is there when its turn comes. -/
theorem deleteWhere_count {unwanted : Relationship → Bool} {edges : List Relationship}
    (clock : ℕ → DateTime) (similar : Similarity) (distinct : (edges.map (·.id)).Nodup)
    (stored : ∀ e ∈ edges, e ∈ store.edges) :
    ((deleteWhere unwanted edges).runOn clock similar store).1 = .ok (edges.countP unwanted) := by
  induction edges generalizing clock store with
  | nil => rfl
  | cons edge rest ih =>
    obtain ⟨unlike, distinct⟩ := List.nodup_cons.mp distinct
    obtain ⟨here, later⟩ := List.forall_mem_cons.mp stored
    by_cases isUnwanted : unwanted edge = true
    · have found : (store.delete edge.id).1 = true := List.any_eq_true.mpr ⟨edge, here, beq_self_eq_true _⟩
      have still : ∀ e ∈ rest, e ∈ (store.delete edge.id).2.edges := by
        intro e member
        have apart : e.id ≠ edge.id := fun same => unlike (List.mem_map.mpr ⟨e, member, same⟩)
        exact List.mem_filter.mpr ⟨later e member, bne_iff_ne.mpr apart⟩
      obtain ⟨count, run⟩ := deleteWhere_run similar unwanted rest (store.delete edge.id).2
      obtain rfl : count = rest.countP unwanted :=
        Except.ok.inj ((congrArg Prod.fst (run clock)).symm.trans (ih clock distinct still))
      simp [deleteWhere, isUnwanted, GraphTask.runOn_bind, run, found, Nat.add_comm]
    · obtain ⟨count, run⟩ := deleteWhere_run similar unwanted rest store
      obtain rfl : count = rest.countP unwanted :=
        Except.ok.inj ((congrArg Prod.fst (run clock)).symm.trans (ih clock distinct later))
      simp [deleteWhere, isUnwanted, GraphTask.runOn_bind, run]

theorem edgesTagged_run {least : Number} (storable : least.isStorable = true) (tag : String) (store : GraphStore) :
    store.edgesTagged tag (some least) =
      .ok (store.edges.filter fun e => e.tag == tag && decide (e.weight < least.nearest)) :=
  if_pos storable

/-- The edges with a tag that weigh less than a bound are light if they were found by similarity. -/
theorem isLight_and (linker : Linker) (least : Number) (edge : Relationship) :
    (isLight least edge && (edge.tag == linker.tag && decide (edge.weight < least.nearest))) =
      linker.isWeak least edge := by
  unfold isLight isWeak
  cases edge.tag == linker.tag <;> cases edge.isSemantic <;> simp

theorem pruneWeakLinks_run (linker : Linker) (clock : ℕ → DateTime) (similar : Similarity) (sound : store.Sound)
    {least : Number} (storable : least.isStorable = true) :
    (linker.pruneWeakLinks (some least)).runOn clock similar store =
      (.ok (store.edges.countP (linker.isWeak least)),
        { store with edges := store.edges.filter (!linker.isWeak least ·) }) := by
  let light := store.edges.filter fun e => e.tag == linker.tag && decide (e.weight < least.nearest)
  have distinct : (light.map (·.id)).Nodup := sound.edgeIds.sublist (List.filter_sublist.map _)
  obtain ⟨n, run⟩ := deleteWhere_run similar (isLight least) light store
  have removed : n = store.edges.countP (linker.isWeak least) := by
    have counted : n = light.countP (isLight least) :=
      Except.ok.inj ((congrArg Prod.fst (run clock)).symm.trans
        (deleteWhere_count clock similar distinct fun e member => (List.mem_filter.mp member).1))
    rw [counted, List.countP_filter]
    exact congrArg (List.countP · store.edges) (funext (linker.isLight_and least))
  have kept : (store.edges.filter fun e => !light.any fun d => isLight least d && d.id == e.id) =
      store.edges.filter (!linker.isWeak least ·) := by
    refine List.filter_congr fun e member => congrArg not (Bool.eq_iff_iff.mpr ?_)
    rw [← linker.isLight_and least e, List.any_eq_true, Bool.and_eq_true]
    constructor
    · rintro ⟨d, atD, wanted⟩
      obtain ⟨isLight, sameId⟩ := Bool.and_eq_true_iff.mp wanted
      obtain ⟨stored, tagged⟩ := List.mem_filter.mp atD
      have same : d = e := List.inj_on_of_nodup_map sound.edgeIds stored member (beq_iff_eq.mp sameId)
      exact same ▸ ⟨isLight, tagged⟩
    · rintro ⟨isLight, tagged⟩
      exact ⟨e, List.mem_filter.mpr ⟨member, tagged⟩, Bool.and_eq_true_iff.mpr ⟨isLight, beq_self_eq_true _⟩⟩
  rw [removed, kept] at run
  rw [pruneWeakLinks, GraphTask.runOn_bind, GraphTask.runOn_edgesTagged, edgesTagged_run storable]
  exact run _

theorem pruneWeakLinks_unstorable (linker : Linker) (clock : ℕ → DateTime) (similar : Similarity)
    {least : Number} (unstorable : least.isStorable = false) :
    (linker.pruneWeakLinks (some least)).runOn clock similar store = (.error .outOfRange, store) := by
  have failed : store.edgesTagged linker.tag (some least) = .error .outOfRange :=
    if_neg (by simp [unstorable])
  rw [pruneWeakLinks, GraphTask.runOn_bind, GraphTask.runOn_edgesTagged, failed]

theorem countP_filter_not {α : Type} (p q : α → Bool) (items : List α) :
    items.countP p + (items.filter (!p ·)).countP q = items.countP fun a => p a || q a := by
  induction items with
  | nil => rfl
  | cons a rest ih =>
    cases here : p a with
    | true => simp [here, ← ih]; omega
    | false => cases there : q a <;> simp [here, there, ← ih]; omega

/-- Pruning removes the edges of the linker's tag that were found by similarity and weigh less than the bound, counts
them, and leaves all others as they are and in their order; an integer of more than 64 bits is no bound. Pruning with
one bound and then with another one leaves what pruning with the larger of them leaves, and removes as many edges. -/
theorem pruneWeakLinks_composes (linker : Linker) (similar : Similarity) (clock later : ℕ → DateTime)
    (sound : store.Sound) :
    let weak := fun (least : Number) (e : Relationship) =>
      e.tag == linker.tag && e.isSemantic && decide (e.weight < least.nearest)
    let prune := fun (clock : ℕ → DateTime) (least : Number) (store : GraphStore) =>
      (linker.pruneWeakLinks (some least)).runOn clock similar store
    (∀ least, prune clock least store =
        if least.isStorable then
          (.ok (store.edges.filter (weak least)).length,
            { store with edges := store.edges.filter (!weak least ·) })
        else (.error .outOfRange, store)) ∧
      ∀ first second, first.isStorable = true → second.isStorable = true →
        let once := prune clock first store
        let twice := prune later second once.2
        ∃ few more, once.1 = .ok few ∧ twice.1 = .ok more ∧
          prune clock (larger first second) store = (.ok (few + more), twice.2) := by
  intro weak prune
  constructor
  · intro least
    cases storable : least.isStorable with
    | true =>
      rw [if_pos rfl, ← List.countP_eq_length_filter]
      exact pruneWeakLinks_run linker clock similar sound storable
    | false => exact pruneWeakLinks_unstorable linker clock similar storable
  · intro first second storable storable' once twice
    have storableBoth : (larger first second).isStorable = true := by
      rcases larger_eq first second with same | same
      · rwa [same]
      · rwa [same]
    have runOnce : once = _ := pruneWeakLinks_run linker clock similar sound storable
    have soundOnce : once.2.Sound := sound.runAmid _
    have runTwice : twice = _ := pruneWeakLinks_run linker later similar soundOnce storable'
    have runBoth : prune clock (larger first second) store = _ :=
      pruneWeakLinks_run linker clock similar sound storableBoth
    have either : linker.isWeak (larger first second) = fun e => linker.isWeak first e || linker.isWeak second e :=
      funext (linker.isWeak_larger first second)
    have count : store.edges.countP (linker.isWeak first) +
        (store.edges.filter (!linker.isWeak first ·)).countP (linker.isWeak second) =
          store.edges.countP (linker.isWeak (larger first second)) := by
      rw [either]
      exact countP_filter_not _ _ _
    have left : (store.edges.filter (!linker.isWeak first ·)).filter (!linker.isWeak second ·) =
        store.edges.filter (!linker.isWeak (larger first second) ·) := by
      rw [either, List.filter_filter]
      refine List.filter_congr fun e _ => ?_
      rw [Bool.not_or, Bool.and_comm]
    refine ⟨_, _, congrArg Prod.fst runOnce, congrArg Prod.fst runTwice, ?_⟩
    rw [runBoth, runTwice, runOnce]
    dsimp only
    rw [count, left]

/-- Edges of several weights, one of them made by an author and one with another tag. -/
def weighedGraph : GraphStore :=
  let found := discovered (.float 0.5)
  let requests : List GraphRequest := [.create "a" "b" "RELATES_TO" 0.4 found, .create "a" "c" "RELATES_TO" 0.1 [],
    .create "b" "a" "RELATES_TO" 0.5 found, .create "b" "c" "calls" 0.2 found,
    .create "c" "a" "RELATES_TO" 0.7 found]
  GraphStore.serve (requests.map fun request => ⟨default, fun _ => .ok [], request⟩) .empty

/-- An edge that weighs as much as the bound stays. -/
theorem pruneWeakLinks_composes_weighed :
    let prune := fun (least : Float) (store : GraphStore) =>
      (({} : Linker).pruneWeakLinks (some (.float least))).runOn (fun _ => default) sampleSimilarity store
    let once := prune 0.5 weighedGraph
    let twice := prune 0.7 once.2
    weighedGraph.Sound ∧ once.1 = .ok 1 ∧ twice.1 = .ok 1 ∧ prune 0.7 weighedGraph = (.ok 2, twice.2) ∧
      once.2.edges.map (·.id) = [1, 2, 3, 4].map GraphStore.edgeId ∧
      twice.2.edges.map (·.id) = [1, 3, 4].map GraphStore.edgeId := by
  intro prune once twice
  have sound : weighedGraph.Sound := GraphStore.Sound.empty.serve _
  obtain ⟨removes, composes⟩ := pruneWeakLinks_composes {} sampleSimilarity (fun _ => default)
    (fun _ => default) sound
  obtain ⟨few, more, first, second, both⟩ := composes (.float 0.5) (.float 0.7) rfl rfl
  have larger_eq : larger (.float 0.5) (.float 0.7) = .float 0.7 := if_pos (by decide +kernel)
  rw [larger_eq] at both
  have atHalf : once = _ := removes (.float 0.5)
  have atMore : prune 0.7 weighedGraph = _ := removes (.float 0.7)
  have one : few = 1 := by
    rw [← Except.ok.inj ((congrArg Prod.fst atHalf).symm.trans first)]
    decide +kernel
  have two : few + more = 2 := by
    rw [← Except.ok.inj ((congrArg Prod.fst atMore).symm.trans (congrArg Prod.fst both))]
    decide +kernel
  have rest : more = 1 := by omega
  have left : twice.2 = (prune 0.7 weighedGraph).2 := (congrArg Prod.snd both).symm
  refine ⟨sound, one ▸ first, rest ▸ second, two ▸ both, ?_, ?_⟩
  · rw [atHalf]
    decide +kernel
  · rw [left, atMore]
    decide +kernel

end Linker

end CodeGraph
