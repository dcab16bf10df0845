import CodeGraph.Proofs.Decimal.Order
import CodeGraph.Proofs.Hooks.Failing
import CodeGraph.Proofs.Hooks.Records
import CodeGraph.Proofs.Json.OneLine
import CodeGraph.Proofs.Time.Written

namespace CodeGraph

section Pairs

variable {α : Type} {a b : α} {items : List α}

/-- Of two items of a list one stands before the other. -/
theorem pair_sublist_or (atA : a ∈ items) (atB : b ∈ items) (other : a ≠ b) :
    [a, b].Sublist items ∨ [b, a].Sublist items := by
  obtain ⟨before, after, rfl⟩ := List.append_of_mem atA
  rcases List.mem_append.mp atB with early | late
  · have last : [a].Sublist (a :: after) := List.singleton_sublist.mpr List.mem_cons_self
    exact .inr ((List.singleton_sublist.mpr early).append last)
  · have late : b ∈ after := (List.mem_cons.mp late).resolve_left other.symm
    have pair : [a, b].Sublist (a :: after) := (List.singleton_sublist.mpr late).cons_cons a
    exact .inl (pair.trans (List.sublist_append_right before _))

/-- Two items do not stand in both orders. -/
theorem not_pair_sublist (distinct : items.Nodup) (pair : [a, b].Sublist items) :
    ¬ [b, a].Sublist items := by
  intro swapped
  induction items with
  | nil => cases pair
  | cons c rest ih =>
    obtain ⟨new, distinct⟩ := List.nodup_cons.mp distinct
    rcases List.sublist_cons_iff.mp pair with inside | ⟨_, ⟨⟩, second⟩
    · rcases List.sublist_cons_iff.mp swapped with turned | ⟨_, ⟨⟩, _⟩
      · exact ih distinct inside turned
      · exact new (inside.subset (List.mem_cons_of_mem _ List.mem_cons_self))
    · rcases List.sublist_cons_iff.mp swapped with turned | ⟨_, ⟨⟩, _⟩
      · exact new (turned.subset (List.mem_cons_of_mem _ List.mem_cons_self))
      · exact new (List.singleton_sublist.mp second)

end Pairs

theorem mapM_map_eq_ok {α β γ ε : Type} {read : β → Except ε γ} {write : α → β} {shown : α → γ} {items : List α}
    (each : ∀ item ∈ items, read (write item) = .ok (shown item)) :
    (items.map write).mapM read = .ok (items.map shown) := by
  induction items with
  | nil => rfl
  | cons item rest ih =>
    obtain ⟨first, each⟩ := List.forall_mem_cons.mp each
    rw [List.map_cons, List.mapM_cons, first, ih each]
    rfl

namespace HookStore

section Newest

variable {α β : Type} (time : α → String) (items : List α)

theorem newestFirst_perm : (newestFirst time items).Perm items :=
  (List.mergeSort_perm _ _).trans items.reverse_perm

theorem newestFirst_map (f : β → α) (items : List β) :
    newestFirst time (items.map f) = (newestFirst (fun b => time (f b)) items).map f := by
  rw [newestFirst, newestFirst, ← List.map_reverse]
  exact (List.map_mergeSort (f := f) fun _ _ _ _ => rfl).symm

variable {items}

/-- Later times stand first, and of two items of one time the one that came last. -/
theorem newestFirst_pairwise (distinct : items.Nodup) :
    (newestFirst time items).Pairwise fun a b =>
      time b < time a ∨ time b = time a ∧ [b, a].Sublist items := by
  have trans (a b c : α) (first : decide (time b ≤ time a) = true) (second : decide (time c ≤ time b) = true) :
      decide (time c ≤ time a) = true :=
    decide_eq_true (String.le_trans (of_decide_eq_true second) (of_decide_eq_true first))
  have total (a b : α) : (decide (time b ≤ time a) || decide (time a ≤ time b)) = true := by
    simpa using String.le_total (time b) (time a)
  have sorted := List.pairwise_mergeSort trans total items.reverse
  have perm := newestFirst_perm time items
  have unique : (newestFirst time items).Nodup := perm.nodup_iff.mpr distinct
  rw [List.pairwise_iff_forall_sublist] at sorted ⊢
  intro a b pair
  have below : time b ≤ time a := of_decide_eq_true (sorted pair)
  by_cases same : time b = time a
  · have other : a ≠ b := List.pairwise_iff_forall_sublist.mp unique pair
    have atA : a ∈ items := perm.subset (pair.subset (by simp))
    have atB : b ∈ items := perm.subset (pair.subset (by simp))
    rcases pair_sublist_or atA atB other with ahead | behind
    · -- Equal times keep their order from the reversed list, where the pair stands the other way round.
      have kept : [b, a].Sublist (newestFirst time items) :=
        List.pair_sublist_mergeSort trans total (decide_eq_true (String.not_lt.mp (same ▸ String.lt_irrefl _)))
          ahead.reverse
      exact absurd kept (not_pair_sublist unique pair)
    · exact .inr ⟨same, behind⟩
  · exact .inl (String.not_le.mp fun above => same (String.le_antisymm below above))

end Newest

end HookStore

/-- What a column of fractions keeps of a number is equal to it. -/
theorem inFractionColumn_beq {x : Float} (number : x.isNaN = false) : (inFractionColumn x == x) = true := by
  unfold inFractionColumn
  split
  · rename_i zero
    obtain ⟨i, atX, atZero⟩ := Decimal.beq_iff_place.mp zero
    exact Decimal.beq_iff_place.mpr ⟨i, atZero, atX⟩
  · exact Decimal.beq_self number

/-- A run that has a row: its time is on the calendar and has no offset, its duration is a number, and its counts
have at most 64 bits. -/
structure HookExecution.IsStorable (e : HookExecution) : Prop where
  timestamp : e.timestamp.IsNaive
  duration : e.duration.isNaN = false
  filesIndexed : fitsWord e.filesIndexed = true
  entitiesUpdated : fitsWord e.entitiesUpdated = true

/-- A run as it is shown, the same in every field. Durations are the same as numbers, whatever the sign of a
zero. -/
structure HookExecution.Shows (recorded shown : HookExecution) : Prop where
  duration : (shown.duration == recorded.duration) = true
  others : shown = { recorded with duration := shown.duration }

namespace HookExecution

variable {e : HookExecution}

/-- The written texts of a column are read back. -/
theorem texts_compact (texts : List String) : ExecutionRow.texts (Json.strings texts).compact = .ok texts := by
  have written : ((Json.strings texts).compact == "") = false := by
    rw [beq_eq_false_iff_ne]
    intro empty
    have chars := congrArg String.toList empty
    rw [Json.toList_compact_strings] at chars
    cases chars
  rw [ExecutionRow.texts, written, if_neg Bool.false_ne_true, Json.parse_compact_strings]
  dsimp only
  rw [Reader.list_strings]
  rfl

/-- A run is read back from its row. -/
theorem execution_row (naive : e.timestamp.IsNaive) :
    e.row.execution = .ok { e with duration := inFractionColumn e.duration } := by
  have success : ((if e.success then 1 else 0 : Int) != 0) = e.success := by cases e.success <;> rfl
  unfold ExecutionRow.execution row
  simp only [HookType.ofName?_name, DateTime.full?_text naive, texts_compact, success]
  rfl

theorem IsStorable.shows (storable : e.IsStorable) :
    e.Shows { e with duration := inFractionColumn e.duration } :=
  ⟨inFractionColumn_beq storable.duration, rfl⟩

/-- Which of two runs is shown first: the later one, and of two at one time the one that was recorded last. -/
def ComesBefore (executions : List HookExecution) (a b : HookExecution) : Prop :=
  b.timestamp.Before a.timestamp ∨ a.timestamp = b.timestamp ∧ [b, a].Sublist executions

end HookExecution

namespace HookStore

variable {store : HookStore} {executions : List HookExecution}

/-- Runs with ids of their own are kept one after the other. -/
theorem foldlM_record (unlocked : store.executionsLocked = false)
    (distinct : ((store.executions ++ executions).map (·.id)).Nodup) (storable : ∀ e ∈ executions, e.IsStorable) :
    executions.foldlM record store = .ok { store with executions := store.executions ++ executions } := by
  induction executions generalizing store with
  | nil => simp [pure, Except.pure]
  | cons e rest ih =>
    obtain ⟨first, storable⟩ := List.forall_mem_cons.mp storable
    have new : ∀ kept ∈ store.executions, kept.id ≠ e.id := by
      rw [List.map_append, List.nodup_append'] at distinct
      exact fun kept member same => distinct.2.2 (List.mem_map_of_mem member) (same ▸ List.mem_cons_self)
    have recorded := record_eq_ok unlocked first.filesIndexed first.entitiesUpdated first.duration new
    rw [List.append_cons] at distinct ⊢
    rw [List.foldlM_cons, recorded]
    exact @ih { store with executions := store.executions ++ [e] } unlocked distinct storable

/-- Rows are chosen as the runs that they are of. -/
theorem filter_row (project : String) (hookType : Option HookType) (executions : List HookExecution) :
    (executions.map (·.row)).filter (fun row : ExecutionRow => row.project == project && hookType.all (·.name == row.hookType)) =
      (executions.filter fun e => e.projectId == project && hookType.all (· == e.hookType)).map (·.row) := by
  have names (a b : HookType) : (a.name == b.name) = (a == b) := by
    cases a <;> cases b <;> rfl
  rw [List.filter_map]
  refine congrArg (List.map HookExecution.row) (List.filter_congr fun e _ => ?_)
  simp only [Function.comp_apply, HookExecution.row, names]

/-- Runs are shown as they are read back from their rows, those with the latest times first. -/
theorem recent_eq_ok (storable : ∀ e ∈ store.executions, e.IsStorable) (project : String)
    (hookType : Option HookType) {limit : Int} (some : 0 ≤ limit) (word : limit < wordLimit) :
    store.recent project hookType limit =
      .ok (((newestFirst (·.timestamp.text)
        (store.executions.filter fun e => e.projectId == project && hookType.all (· == e.hookType))).take
          limit.toNat).map fun e => { e with duration := inFractionColumn e.duration }) := by
  have fits : fitsWord limit = true := by
    simp only [fitsWord, Bool.and_eq_true, decide_eq_true_eq]
    exact ⟨le_trans (by decide) some, word⟩
  have notNegative : ¬ limit < 0 := not_lt.mpr some
  unfold recent
  dsimp only
  rw [fits, if_neg (by decide), filter_row, newestFirst_map, limited, if_neg notNegative, ← List.map_take]
  refine mapM_map_eq_ok fun e member => HookExecution.execution_row ?_
  have kept := (newestFirst_perm _ _).subset (List.mem_of_mem_take member)
  exact (storable e (List.mem_of_mem_filter kept)).timestamp

/-- Runs of which none is a repetition are sorted by their times as points on the calendar. -/
theorem newestFirst_comesBefore {found : List HookExecution} (chosen : found.Sublist executions)
    (distinct : found.Nodup) (naive : ∀ e ∈ found, e.timestamp.IsNaive) :
    (newestFirst (·.timestamp.text) found).Pairwise (HookExecution.ComesBefore executions) := by
  have sorted := newestFirst_pairwise (fun e : HookExecution => e.timestamp.text) distinct
  have perm := newestFirst_perm (fun e : HookExecution => e.timestamp.text) found
  refine List.Pairwise.imp_of_mem ?_ sorted
  intro a b atA atB ordered
  have naiveA := naive a (perm.subset atA)
  have naiveB := naive b (perm.subset atB)
  rw [HookExecution.ComesBefore, ← DateTime.text_lt_iff naiveB naiveA]
  exact ordered.imp_right fun ⟨same, pair⟩ =>
    ⟨DateTime.text_injective naiveA naiveB same.symm, pair.trans chosen⟩

/-- Whatever runs are recorded, with ids of their own, the runs of a project and, if one is asked for, a hook are
shown as they were recorded: the later ones before the earlier ones, of those at one time the last recorded one
first, and of them all as many as the limit says. -/
theorem recent_recalls (executions : List HookExecution) (distinct : (executions.map (·.id)).Nodup)
    (storable : ∀ e ∈ executions, e.IsStorable) :
    ∃ store, executions.foldlM record empty = .ok store ∧
      ∀ (project : String) (hookType : Option HookType) (limit : Int), 0 ≤ limit → limit < wordLimit →
        ∃ order shown : List HookExecution, store.recent project hookType limit = .ok shown ∧
          order.Perm (executions.filter fun e => e.projectId == project && hookType.all (· == e.hookType)) ∧
          order.Pairwise (HookExecution.ComesBefore executions) ∧
          List.Forall₂ HookExecution.Shows (order.take limit.toNat) shown := by
  have kept : executions.foldlM record empty = .ok { executions } := foldlM_record rfl distinct storable
  refine ⟨_, kept, fun project hookType limit some word => ?_⟩
  have chosen : (executions.filter fun e => e.projectId == project && hookType.all (· == e.hookType)).Sublist
    executions := List.filter_sublist
  have unique := (List.Nodup.of_map _ distinct).sublist chosen
  have shown := @recent_eq_ok { executions } storable project hookType limit some word
  have perm := newestFirst_perm (fun e : HookExecution => e.timestamp.text)
    (executions.filter fun e => e.projectId == project && hookType.all (· == e.hookType))
  refine ⟨_, _, shown, perm, ?_, ?_⟩
  · exact newestFirst_comesBefore chosen unique fun e member => (storable e (chosen.subset member)).timestamp
  · rw [List.forall₂_map_right_iff, List.forall₂_same]
    exact fun e member => (storable e (chosen.subset (perm.subset (List.mem_of_mem_take member)))).shows

/-- A run of a hook after a merge. -/
def sampleRun (id : String) (microsecond : Nat) : HookExecution where
  id := id
  projectId := "demo"
  hookType := .postMerge
  timestamp := { year := 2024, month := 2, day := 29, hour := 12, microsecond }
  repository := "/repos/demo"
  success := true
  duration := -0.0
  warnings := ["naïve"]

theorem recent_recalls_sampleRun :
    let runs := [sampleRun "noon" 0, sampleRun "later" 500000]
    (runs.map (·.id)).Nodup ∧ (∀ e ∈ runs, e.IsStorable) ∧ (0 : Int) ≤ 1 ∧ 1 < wordLimit ∧
      ∃ store shown, runs.foldlM record empty = .ok store ∧ store.recent "demo" none 1 = .ok [shown] ∧
        shown.id = "later" ∧ shown.warnings = ["naïve"] := by
  intro runs
  have distinct : (runs.map (·.id)).Nodup := by decide
  have storable : ∀ e ∈ runs, e.IsStorable := by
    have number : (-0.0 : Float).isNaN = false := by decide +kernel
    simp only [runs, List.forall_mem_cons]
    exact ⟨⟨⟨by decide, rfl⟩, number, by decide, by decide⟩, ⟨⟨by decide, rfl⟩, number, by decide, by decide⟩,
      by simp⟩
  obtain ⟨store, kept, recalled⟩ := recent_recalls runs distinct storable
  obtain ⟨order, shown, found, perm, sorted, shows⟩ := recalled "demo" none 1 (by decide) (by decide)
  have all : order.Perm runs := perm
  obtain ⟨a, b, rfl⟩ := List.length_eq_two.mp all.length_eq
  obtain ⟨only, rfl⟩ : ∃ only, shown = [only] := List.length_eq_one_iff.mp shows.length_eq.symm
  have same : (sampleRun "later" 500000).Shows only := by
    have first := (List.forall₂_cons.mp shows).1
    rcases List.mem_cons.mp (all.subset List.mem_cons_self) with rfl | later
    · -- The run at noon does not come before the other one.
      have second : b = sampleRun "later" 500000 := List.singleton_perm_singleton.mp ((List.perm_cons _).mp all)
      rcases (List.pairwise_pair.mp sorted) with before | ⟨atOnce, -⟩
      · exact absurd before (second ▸ by decide)
      · exact absurd atOnce (second ▸ by decide)
    · exact List.mem_singleton.mp later ▸ first
  exact ⟨distinct, storable, by decide, by decide, store, only, kept, found, congrArg (·.id) same.others,
    congrArg (·.warnings) same.others⟩

/-- A limit of more than 64 bits is refused, even if nothing has been recorded. -/
theorem recent_huge_limit : 0 ≤ wordLimit ∧ empty.recent "demo" none wordLimit = .error .outOfRange :=
  ⟨by decide, rfl⟩

end HookStore

end CodeGraph
