import CodeGraph.Proofs.Exchanges
import CodeGraph.Proofs.Graph.Sound
import CodeGraph.Hooks.Handling

namespace CodeGraph

namespace HookStore

variable {store next : HookStore}

/-- Records can be kept, and the ids that they will get are free. -/
structure Ready (store : HookStore) : Prop where
  unlocked : store.executionsLocked = false
  fresh : ∀ e ∈ store.executions, ∀ n, store.executions.length ≤ n → e.id ≠ GraphStore.edgeId n

theorem Ready.empty : Ready {} :=
  ⟨rfl, nofun⟩

/-- The records of runs are the same in two stores. -/
structure SameRuns (store next : HookStore) : Prop where
  executions : next.executions = store.executions
  unlocked : next.executionsLocked = store.executionsLocked

theorem SameRuns.refl (store : HookStore) : SameRuns store store :=
  ⟨rfl, rfl⟩

theorem SameRuns.trans {last : HookStore} (first : SameRuns store next) (second : SameRuns next last) :
    SameRuns store last :=
  ⟨second.executions.trans first.executions, second.unlocked.trans first.unlocked⟩

theorem SameRuns.ready (same : SameRuns store next) (ready : store.Ready) : next.Ready :=
  ⟨same.unlocked.trans ready.unlocked, same.executions ▸ ready.fresh⟩

theorem markIndexed_sameRuns {project commit : String} {fileCount : Json}
    (run : store.markIndexed project commit fileCount = .ok next) : SameRuns store next := by
  unfold markIndexed at run
  split at run
  · simp at run
  · cases column : fileCount.inColumn "indexed_commits.file_count" with
    | error failure => simp [column, bind, Except.bind] at run
    | ok count =>
      simp only [column, bind, Except.bind] at run
      split at run <;> cases run <;> exact ⟨rfl, rfl⟩

end HookStore

/-- The numbers of a result have places in columns. -/
def HookResult.isStorable (result : HookResult) : Bool :=
  fitsWord result.filesIndexed && fitsWord result.entitiesUpdated && !result.duration.isNaN

/-- The record of a run, as its event and its result say. -/
structure HookExecution.Records (project : String) (event : HookEvent) (result : HookResult)
    (row : HookExecution) : Prop where
  projectId : row.projectId = project
  hookType : row.hookType = event.type
  timestamp : row.timestamp = event.timestamp
  repository : row.repository = event.repository
  branch : row.branch = event.branch
  commit : row.commit = event.commit
  success : row.success = result.success
  duration : row.duration = result.duration
  filesIndexed : row.filesIndexed = result.filesIndexed
  entitiesUpdated : row.entitiesUpdated = result.entitiesUpdated
  message : row.message = result.message
  warnings : row.warnings = result.warnings
  errors : row.errors = result.errors

theorem HookExecution.records_ofResult (id project : String) (event : HookEvent) (result : HookResult) :
    Records project event result (ofResult id project event result) := by
  constructor <;> rfl

namespace HookStore

variable {store : HookStore}

/-- A run is kept if its numbers have places in columns and its id is new. -/
theorem record_eq_ok {execution : HookExecution} (unlocked : store.executionsLocked = false)
    (files : fitsWord execution.filesIndexed = true) (entities : fitsWord execution.entitiesUpdated = true)
    (number : execution.duration.isNaN = false) (new : ∀ kept ∈ store.executions, kept.id ≠ execution.id) :
    store.record execution = .ok { store with executions := store.executions ++ [execution] } := by
  have free : store.executions.any (·.id == execution.id) = false := by
    simpa only [List.any_eq_false, beq_iff_eq] using new
  simp only [record, unlocked, files, entities, number, free, Bool.and_self, Bool.not_true, Bool.false_eq_true,
    if_false]

theorem Ready.record (ready : store.Ready) (project : String) (event : HookEvent)
    {result : HookResult} (storable : result.isStorable = true) :
    let row := HookExecution.ofResult store.nextId project event result
    store.record row = .ok { store with executions := store.executions ++ [row] } := by
  intro row
  obtain ⟨fits, number⟩ := Bool.and_eq_true_iff.mp storable
  obtain ⟨files, entities⟩ := Bool.and_eq_true_iff.mp fits
  exact record_eq_ok ready.unlocked files entities ((Bool.not_eq_true' _).mp number)
    fun e member => ready.fresh e member _ (Nat.le_refl _)

theorem record_unstorable (store : HookStore) (id project : String) (event : HookEvent)
    {result : HookResult} (huge : result.isStorable = false) :
    ∃ failure, store.record (HookExecution.ofResult id project event result) = .error failure := by
  unfold HookStore.record
  split
  · exact ⟨_, rfl⟩
  · split
    · exact ⟨_, rfl⟩
    · rename_i fits
      split
      · exact ⟨_, rfl⟩
      · rename_i number
        change ¬ (!(fitsWord result.filesIndexed && fitsWord result.entitiesUpdated)) = true at fits
        have storable : result.isStorable = true := Bool.and_eq_true_iff.mpr
          ⟨by simpa only [Bool.not_eq_true', Bool.not_eq_false] using fits,
            (Bool.not_eq_true' _).mpr (Bool.eq_false_iff.mpr number)⟩
        rw [huge] at storable
        contradiction

/-- The record that has been added has the next id, and later ids are still free. -/
theorem Ready.append (ready : store.Ready) {row : HookExecution} (id : row.id = store.nextId) :
    Ready { store with executions := store.executions ++ [row] } := by
  refine ⟨ready.unlocked, fun e member n later => ?_⟩
  change (store.executions ++ [row]).length ≤ n at later
  rw [List.length_append, List.length_singleton] at later
  rcases List.mem_append.mp member with old | new
  · exact ready.fresh e old n (by omega)
  · cases List.mem_singleton.mp new
    rw [id]
    exact GraphStore.edgeId_injective.ne (by omega)

end HookStore

namespace HookHandler

variable {desk : HookDesk}

theorem recorded_storable (handler : HookHandler) (event : HookEvent) {result : HookResult}
    (ready : desk.store.Ready) (storable : result.isStorable = true) :
    ∃ row, HookExecution.Records (handler.project event) event result row ∧
      (handler.recorded event result desk).store.executions = desk.store.executions ++ [row] ∧
      (handler.recorded event result desk).store.Ready := by
  refine ⟨_, HookExecution.records_ofResult desk.store.nextId _ _ _, ?_⟩
  unfold recorded
  dsimp only
  rw [HookStore.change_of_ok (ready.record (handler.project event) event storable)]
  exact ⟨rfl, ready.append rfl⟩

theorem recorded_unstorable (handler : HookHandler) (event : HookEvent) {result : HookResult}
    (huge : result.isStorable = false) : handler.recorded event result desk = desk := by
  unfold recorded
  dsimp only
  obtain ⟨failure, failed⟩ := desk.store.record_unstorable desk.store.nextId (handler.project event)
    event huge
  rw [HookStore.change_of_error failed]

open HookStore (SameRuns)

theorem markMerged_sameRuns (handler : HookHandler) (event : HookEvent) (merge : Merge)
    (desk : HookDesk) : ((handler.markMerged event merge).run desk).Ensures fun _ out =>
      SameRuns desk.store out.2.store := by
  unfold markMerged
  split
  · exact .refl _
  · refine .pure ?_
    rcases HookStore.change_cases (·.markIndexed (handler.project event) event.commit merge.filesIndexed)
      desk.store with marked | same
    · exact HookStore.markIndexed_sameRuns marked
    · exact ⟨congrArg (·.executions) same, congrArg (·.executionsLocked) same⟩

/-- Lookups that are part of work leave the desk. -/
theorem lift_leaves {α : Type} (program : Lookup α) (desk : HookDesk) :
    ((liftM program : HookWork α).run desk).Ensures fun _ out => out.2 = desk :=
  (program.ensures_true.lift desk).weaken fun _ _ holds => holds.2

theorem indexMerged_sameRuns (handler : HookHandler) (event : HookEvent) (merged : List String)
    (desk : HookDesk) : ((handler.indexMerged event merged).run desk).Ensures fun _ out =>
      SameRuns desk.store out.2.store := by
  unfold indexMerged
  dsimp only
  split
  · exact .refl _
  · split
    · exact .refl _
    · split
      · exact .refl _
      · refine .bind ((lift_leaves (handler.index event merged) desk).weaken ?_)
        rintro log ⟨reason | misshape | indexed, _⟩ rfl
        · exact .refl _
        · exact .refl _
        · exact markMerged_sameRuns handler event _ _

theorem syncMerged_sameRuns (handler : HookHandler) (event : HookEvent) (desk : HookDesk) :
    ((handler.syncMerged event).run desk).Ensures fun _ out => SameRuns desk.store out.2.store := by
  unfold syncMerged
  split
  · exact .refl _
  · refine .bind ((lift_leaves (knownOr event.mergedFiles Git.mergedFiles).run desk).weaken ?_)
    rintro log ⟨refusal | merged, _⟩ rfl
    · exact .refl _
    · exact .bind ((indexMerged_sameRuns handler event merged _).weaken fun _ _ same => same)

/-- A report on a merge is kept and shown, and nothing else changes at the desk. -/
theorem reportMerged_desk (handler : HookHandler) (now : DateTime) (event : HookEvent) (merge : Merge)
    (desk : HookDesk) : ((handler.reportMerged now event merge).run desk).Ensures fun _ out =>
      ∃ reports printed, out.2 = { desk with store := { desk.store with reports }, printed } := by
  unfold reportMerged
  split
  · exact ⟨_, _, rfl⟩
  · refine .bind ((lift_leaves (handler.analyzeMerged now event).run desk).weaken ?_)
    rintro log ⟨fault | report, _⟩ rfl
    · exact ⟨_, _, rfl⟩
    · dsimp only
      unfold printSummary
      split <;> exact ⟨_, _, rfl⟩

theorem reportMerged_sameRuns (handler : HookHandler) (now : DateTime) (event : HookEvent)
    (merge : Merge) (desk : HookDesk) :
    ((handler.reportMerged now event merge).run desk).Ensures fun _ out =>
      SameRuns desk.store out.2.store := by
  refine (reportMerged_desk handler now event merge desk).weaken ?_
  rintro log out ⟨reports, printed, whole⟩
  rw [whole]
  exact ⟨rfl, rfl⟩

theorem postMerge_sameRuns (handler : HookHandler) (now : DateTime) (event : HookEvent)
    (desk : HookDesk) : ((handler.postMerge now event).run desk).Ensures fun _ out =>
      SameRuns desk.store out.2.store := by
  unfold postMerge
  refine .bind ((syncMerged_sameRuns handler event desk).weaken ?_)
  rintro log ⟨refusal | merge, next⟩ synced
  · exact synced
  · refine .bind ((reportMerged_sameRuns handler now event merge next).weaken ?_)
    rintro more ⟨last, final⟩ reported
    exact synced.trans reported

theorem dispatch_sameRuns (handler : HookHandler) (now : DateTime) (event : HookEvent)
    (desk : HookDesk) : ((handler.dispatch now event).run desk).Ensures fun _ out =>
      SameRuns desk.store out.2.store := by
  have lifted {α : Type} (program : Lookup α) :
      ((liftM program : HookWork α).run desk).Ensures fun _ out => SameRuns desk.store out.2.store :=
    (lift_leaves program desk).weaken fun _ _ same => same ▸ .refl _
  unfold dispatch
  cases event.type with
  | preCommit => exact lifted _
  | postMerge => exact postMerge_sameRuns handler now event desk
  | prePush => exact lifted _
  | postCheckout => exact lifted _

theorem report_sameRuns (handler : HookHandler) (now : DateTime) (event : HookEvent)
    (desk : HookDesk) : ((handler.report now event).run desk).Ensures fun _ out =>
      SameRuns desk.store out.2.store := by
  unfold report
  split
  · exact .refl _
  · exact .bind ((dispatch_sameRuns handler now event desk).weaken fun _ _ same => same)

/-- An event with the handler that it is given to, and how long that takes. -/
structure Call where
  handler : HookHandler
  now : DateTime
  event : HookEvent
  duration : Float := 0.0

/-- Handles events one after another. -/
def handleAll : List Call → HookWork (List HookResult)
  | [] => return []
  | call :: rest => do
    let result ← call.handler.handle call.now call.event call.duration
    return result :: (← handleAll rest)

/-- A row says what a call and its result say. -/
def Call.Records (made : Call × HookResult) (row : HookExecution) : Prop :=
  row.Records (made.1.handler.project made.1.event) made.1.event made.2

/-- What handling events has added to records, with a result for each event. -/
structure Handled (calls : List Call) (results : List HookResult) (first last : HookStore) : Prop where
  length : results.length = calls.length
  durations : ∀ made ∈ calls.zip results, made.2.duration = made.1.duration
  added : ∃ rows, last.executions = first.executions ++ rows ∧
    List.Forall₂ Call.Records ((calls.zip results).filter (·.2.isStorable)) rows

theorem Handled.of_sameRuns {calls : List Call} {results : List HookResult}
    {store next last : HookStore} (same : SameRuns store next)
    (handled : Handled calls results next last) : Handled calls results store last := by
  obtain ⟨length, durations, rows, executions, records⟩ := handled
  exact ⟨length, durations, rows, executions.trans (congrArg (· ++ rows) same.executions),
    records⟩

/-- The result of a call is recorded before the next event is handled. -/
theorem Handled.cons {call : Call} {rest : List Call} {result : HookResult}
    {results : List HookResult} {last : HookStore} (ready : desk.store.Ready)
    (duration : result.duration = call.duration)
    (later : Handled rest results (call.handler.recorded call.event result desk).store last) :
    Handled (call :: rest) (result :: results) desk.store last := by
  obtain ⟨length, durations, rows, executions, records⟩ := later
  refine ⟨congrArg (· + 1) length, ?_, ?_⟩
  · exact List.forall_mem_cons.mpr ⟨duration, durations⟩
  · rw [List.zip_cons_cons]
    cases storable : result.isStorable with
    | false =>
      rw [recorded_unstorable call.handler call.event storable] at executions
      rw [List.filter_cons_of_neg (by simp [storable])]
      exact ⟨rows, executions, records⟩
    | true =>
      obtain ⟨row, told, appended, _⟩ :=
        recorded_storable call.handler call.event ready storable
      rw [List.filter_cons_of_pos (by exact storable)]
      refine ⟨row :: rows, ?_, .cons told records⟩
      rw [executions, appended, List.append_assoc, List.singleton_append]

theorem recorded_ready (handler : HookHandler) (event : HookEvent) (result : HookResult)
    (ready : desk.store.Ready) : (handler.recorded event result desk).store.Ready := by
  cases storable : result.isStorable with
  | false => exact (recorded_unstorable handler event storable).symm ▸ ready
  | true =>
    obtain ⟨_, _, _, kept⟩ := recorded_storable handler event ready storable
    exact kept

theorem handle_records (handler : HookHandler) (now : DateTime) (event : HookEvent) (duration : Float)
    (desk : HookDesk) : ((handler.handle now event duration).run desk).Ensures fun _ out =>
      ∃ next, SameRuns desk.store next.store ∧ out.1.duration = duration ∧
        out.2 = handler.recorded event out.1 next := by
  unfold handle
  refine .bind ((report_sameRuns handler now event desk).weaken ?_)
  rintro log ⟨answer, next⟩ same
  exact ⟨next, same, rfl, rfl⟩

theorem handleAll_ensures (calls : List Call) (ready : desk.store.Ready) :
    ((handleAll calls).run desk).Ensures fun _ out => Handled calls out.1 desk.store out.2.store := by
  induction calls generalizing desk with
  | nil =>
    exact ⟨rfl, fun _ none => absurd none List.not_mem_nil, [], (List.append_nil _).symm, .nil⟩
  | cons call rest ih =>
    refine .bind ((handle_records call.handler call.now call.event call.duration desk).weaken ?_)
    rintro log ⟨result, kept⟩ ⟨next, same, duration, atKept⟩
    obtain rfl : kept = call.handler.recorded call.event result next := atKept
    -- What was done for the event leaves records alone, so the ids ahead are still free.
    have free := same.ready ready
    refine .bind ((ih (recorded_ready call.handler call.event result free)).weaken ?_)
    rintro more ⟨results, last⟩ later
    exact (later.cons free duration).of_sameRuns same

/-- Whatever events are handled one after another, and whatever git and the tools answer, there is a
result for each event, and one record is added for each result whose numbers have places in columns, in
their order. It says what the event and the result say. Earlier records stay as they were. -/
theorem handleAll_records {σ : Type} (respond : (request : LookupRequest) → σ → request.Reply × σ)
    (state : σ) (calls : List Call) (desk : HookDesk) (ready : desk.store.Ready) :
    let out := (((handleAll calls).run desk).run respond state).1
    out.1.length = calls.length ∧
      (∀ made ∈ calls.zip out.1, made.2.duration = made.1.duration) ∧
      ∃ rows, out.2.store.executions = desk.store.executions ++ rows ∧
        List.Forall₂ Call.Records
          ((calls.zip out.1).filter fun made =>
            fitsWord made.2.filesIndexed && fitsWord made.2.entitiesUpdated &&
              !made.2.duration.isNaN) rows := by
  have handled := (handleAll_ensures calls ready).exchanges respond state
  exact ⟨handled.length, handled.durations, handled.added⟩

/-- A server whose index says that it has indexed more files than a column can count. -/
def hugeIndex : LookupSource where
  git _ := .timedOut
  tool _ _ := .ok (.obj [("filesIndexed", .int 9223372036854775808)])

def sampleCall (type : HookType) : Call where
  handler := {}
  now := default
  event := { type, timestamp := default, repository := "/repos/demo", stagedFiles := some ["a.py"] }

/-- A commit succeeds without a record of it. -/
theorem handle_huge_unrecorded :
    let out := (((handleAll [sampleCall .preCommit]).run {}).run hugeIndex.respond {}).1
    out.1.map (·.success) = [true] ∧ out.2.store.executions.map (·.id) = [] := by
  decide +kernel

theorem handleAll_records_sample :
    let calls := [sampleCall .preCommit, sampleCall .prePush]
    let out := (((handleAll calls).run {}).run hugeIndex.respond {}).1
    HookStore.Ready {} ∧ out.1.length = 2 ∧ ∃ row,
      out.2.store.executions = [row] ∧ row.hookType = .prePush ∧ row.success = true := by
  intro calls
  obtain ⟨length, _, rows, executions, records⟩ :=
    handleAll_records hugeIndex.respond {} calls {} .empty
  have stored : (((calls.zip (((handleAll calls).run {}).run hugeIndex.respond {}).1.1).filter fun made =>
      fitsWord made.2.filesIndexed && fitsWord made.2.entitiesUpdated &&
        !made.2.duration.isNaN).map fun made => (made.1.event.type, made.2.success)) =
      [(.prePush, true)] := by
    decide +kernel
  obtain ⟨made, only, same⟩ := List.map_eq_singleton_iff.mp stored
  rw [only] at records
  obtain ⟨row, _, told, none, rfl⟩ := List.forall₂_cons_left_iff.mp records
  cases none
  obtain ⟨type, success⟩ := Prod.mk.inj same
  exact ⟨.empty, length, row, executions, told.hookType.trans type, told.success.trans success⟩

end HookHandler

end CodeGraph
