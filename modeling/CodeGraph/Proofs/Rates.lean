import CodeGraph.Proofs.Impact.Entities
import CodeGraph.Proofs.Programs
import CodeGraph.Structure.Writer
import Mathlib.Tactic.Positivity
import Mathlib.Tactic.Ring
import Mathlib.Tactic.Linarith

namespace CodeGraph

/-- What is shown of a rate is the number nearest to it. -/
theorem Outcome.shownRate_eq (outcome : Outcome Json) (items : outcome.processed ≠ 0) :
    Outcome.shownRate ⟨outcome, []⟩ = match Decimal.ofRat? outcome.successRate with
      | some x => .ok (.float x)
      | none => .error (.number .tooLarge) := by
  have none : Number.isZero (.int outcome.processed) = false := by simpa [Number.isZero] using items
  have processed : Outcome.shownNumber ⟨outcome, []⟩ "items_processed" (·.processed) = .ok (.int outcome.processed) := rfl
  have failed : Outcome.shownNumber ⟨outcome, []⟩ "items_failed" (·.failed) = .ok (.int outcome.failed) := rfl
  rw [Outcome.shownRate, processed, failed, Outcome.successRate, if_neg items]
  dsimp only [Bind.bind, Except.bind]
  rw [none, if_neg Bool.false_ne_true]
  dsimp only [Number.sub, Except.mapError, Number.div]
  cases Decimal.ofRat? (((outcome.processed - outcome.failed : Int) : Rat) / (outcome.processed : Rat)) <;> rfl

/-- Where all items count as processed, the rate is the share of those that were done. -/
theorem Outcome.successRate_share {α : Type} {outcome : Outcome α} {failed done : Nat}
    (processed : outcome.processed = (failed + done : Nat)) (failures : outcome.failed = failed)
    (success : outcome.isSuccess = true ↔ failed = 0) :
    0 ≤ outcome.successRate ∧ outcome.successRate ≤ 1 ∧
      (0 < failed + done → outcome.successRate = (done : Rat) / (failed + done : Nat)) := by
  have parts : (((failed + done : Nat) : Int) - failed : Int) = done := by omega
  rw [Outcome.successRate, processed, failures, parts]
  rcases Nat.eq_zero_or_pos (failed + done) with none | some
  · have clean : failed = 0 := by omega
    rw [if_pos (by omega), if_pos (success.mpr clean)]
    exact ⟨zero_le_one, le_rfl, fun some => absurd none some.ne'⟩
  · have items : (0 : Rat) < (failed + done : Nat) := by exact_mod_cast some
    have less : (done : Rat) ≤ (failed + done : Nat) := by exact_mod_cast Nat.le_add_left done failed
    rw [if_neg (by omega), Int.cast_natCast, Int.cast_natCast, le_div_iff₀ items, div_le_one items, zero_mul]
    exact ⟨by positivity, less, fun _ => rfl⟩

/-- The calls of a tool that failed. -/
def failures (tool : String) (log : List LookupExchange) : Nat :=
  (callsOf tool log).countP fun call => !call.2.isOk

theorem failures_le (tool : String) (log : List LookupExchange) : failures tool log ≤ (callsOf tool log).length :=
  List.countP_le_length

namespace Impact

/-- How a rate counts attempts of which some failed: a failure is taken off what was done twice, and off what was
processed once. -/
def lookupRate (attempted failed : Nat) : Rat :=
  if failed = attempted then (if failed = 0 then 1 else 0) else ((attempted : Rat) - 2 * failed) / (attempted - failed)

section

variable {α : Type} {attempted failed : Nat}

/-- A lookup has items that were processed, and others that failed. -/
theorem lookupOutcome_counts (now : DateTime) (data : List α) (operation : String) (warnings : List String)
    (attempted : Nat) : ∃ outcome, lookupOutcome now data operation warnings attempted = outcome ∧
      outcome.processed = attempted - warnings.length ∧ outcome.failed = warnings.length ∧
      (outcome.isSuccess = true ↔ warnings.length = 0) := by
  refine ⟨_, rfl, ?_⟩
  unfold lookupOutcome
  cases warnings with
  | nil => exact ⟨(sub_zero _).symm, rfl, iff_of_true rfl rfl⟩
  | cons warning rest => exact ⟨rfl, rfl, iff_of_false Bool.false_ne_true (Nat.succ_ne_zero _)⟩

theorem lookupOutcome_rate (now : DateTime) (data : List α) (operation : String) (warnings : List String) :
    (lookupOutcome now data operation warnings attempted).successRate = lookupRate attempted warnings.length := by
  obtain ⟨outcome, same, processed, failed, success⟩ := lookupOutcome_counts now data operation warnings attempted
  rw [same, Outcome.successRate, processed, failed, lookupRate]
  simp only [success]
  by_cases all : warnings.length = attempted
  · rw [if_pos all, if_pos (by omega)]
  · rw [if_neg all, if_neg (by omega)]
    push_cast
    ring

/-- A failure makes the rate differ from the share, unless everything failed. -/
theorem lookupRate_eq_share_iff (within : failed ≤ attempted) (some : 0 < attempted) :
    lookupRate attempted failed = ((attempted : Rat) - failed) / attempted ↔ failed = 0 ∨ failed = attempted := by
  have items : (attempted : Rat) ≠ 0 := by positivity
  unfold lookupRate
  by_cases all : failed = attempted
  · subst all
    simp [some.ne']
  · have less : (failed : Rat) < attempted := by exact_mod_cast lt_of_le_of_ne within all
    have done : (attempted : Rat) - failed ≠ 0 := (sub_pos.mpr less).ne'
    rw [if_neg all, or_iff_left all, div_eq_div_iff done items]
    constructor
    · intro same
      have square : (failed : Rat) * failed = 0 := by linarith
      exact_mod_cast mul_self_eq_zero.mp square
    · rintro rfl
      simp

/-- The rate is no share where more than half of the items failed, but not all. -/
theorem lookupRate_mem_iff (within : failed ≤ attempted) :
    0 ≤ lookupRate attempted failed ∧ lookupRate attempted failed ≤ 1 ↔ 2 * failed ≤ attempted ∨ failed = attempted := by
  unfold lookupRate
  by_cases all : failed = attempted
  · rw [if_pos all]
    refine iff_of_true ?_ (.inr all)
    split <;> simp
  · have less : (failed : Rat) < attempted := by exact_mod_cast lt_of_le_of_ne within all
    have done : (0 : Rat) < attempted - failed := sub_pos.mpr less
    rw [if_neg all, or_iff_left all, le_div_iff₀ done, div_le_one done, zero_mul, sub_nonneg]
    constructor
    · rintro ⟨half, -⟩
      exact_mod_cast half
    · intro half
      have nonneg : (0 : Rat) ≤ failed := by positivity
      exact ⟨by exact_mod_cast half, by linarith⟩

end

/-- Calls of a tool, one for each of some items. What they give is reported with a warning for each that failed, beside
others. -/
def Searches {α : Type} (tool : String) (items others : Nat) (analysis : Analysis (α × List String)) : Prop :=
  analysis.run.Ensures fun log result => ∀ found, result = .ok found →
    (callsOf tool log).length = items ∧ found.2.length = others + failures tool log

namespace Searches

variable {α β γ : Type} {tool : String} {items others : Nat}

theorem none (a : α) : Searches tool 0 0 (pure (a, [])) := by
  rintro _ ⟨⟩
  exact ⟨rfl, rfl⟩

theorem map {analysis : Analysis (α × List String)} (g : α × List String → β × List String) (more : Nat)
    (searches : Searches tool items others analysis) (warns : ∀ found, (g found).2.length = found.2.length + more) :
    Searches tool items (others + more) (analysis >>= fun found => pure (g found)) := by
  refine Analysis.ensures_map g (Program.Ensures.weaken searches fun log result holds found given => ?_)
  cases result with
  | error misshape => cases given
  | ok a =>
    cases given
    obtain ⟨calls, warned⟩ := holds a rfl
    refine ⟨calls, ?_⟩
    rw [warns, warned, Nat.add_right_comm]

/-- What does not call the tool makes no difference. -/
theorem spared {first : Analysis γ} {f : γ → Analysis (α × List String)} (spares : Analysis.Spares tool first)
    (searches : ∀ a, Searches tool items others (f a)) : Searches tool items others (first >>= f) := by
  refine Analysis.ensures_bind (Program.Ensures.weaken (Lookup.Spares.uncalled spares) fun log result none => ?_)
  cases result with
  | error misshape => exact nofun
  | ok a =>
    refine Program.Ensures.weaken (searches a) fun more found holds => ?_
    rw [failures, callsOf_append, none]
    exact holds

theorem call {parameters : Members} {f : ToolReply → Analysis (α × List String)}
    (failed : ∀ reason, Searches tool items 1 (f (.error reason)))
    (answered : ∀ answer, Searches tool items 0 (f (.ok answer))) :
    Searches tool (items + 1) 0 (Analysis.call tool parameters >>= f) := by
  refine Analysis.ensures_call fun reply => ?_
  cases reply with
  | error reason =>
    refine Program.Ensures.weaken (failed reason) fun log result holds found given => ?_
    obtain ⟨calls, warned⟩ := holds found given
    refine ⟨by rw [callsOf_tool, List.length_cons, calls], ?_⟩
    rw [failures, callsOf_tool, List.countP_cons_of_pos rfl, Nat.zero_add, warned, Nat.add_comm, failures]
  | ok answer =>
    refine Program.Ensures.weaken (answered answer) fun log result holds found given => ?_
    obtain ⟨calls, warned⟩ := holds found given
    refine ⟨by rw [callsOf_tool, List.length_cons, calls], ?_⟩
    rw [failures, callsOf_tool, List.countP_cons_of_neg Bool.false_ne_true, warned, failures]

end Searches

section

variable (project : String) (files : ChangedFiles)

theorem entitiesOfFiles_searches (deleted looked : List String) :
    Searches "entity_search" looked.length 0 (entitiesOfFiles project deleted looked) := by
  induction looked with
  | nil => exact .none []
  | cons file rest ih =>
    refine .call (fun reason => ?_) fun answer => ?_
    · exact .map _ 1 ih fun found => rfl
    · refine .spared (.lift (member answer "entities")) fun entities => ?_
      refine .spared (.lift (itemsOf entities)) fun items => ?_
      refine .spared (entitiesOf_spares (by decide) project file _ items) fun found => ?_
      exact .map _ 0 ih fun more => rfl

theorem decisionsForNames_searches (seen names : List String) :
    Searches "decision_search" names.length 0 (decisionsForNames project files seen names) := by
  induction names generalizing seen with
  | nil => exact .none []
  | cons name rest ih =>
    refine .call (fun reason => ?_) fun answer => ?_
    · exact .map _ 1 (ih seen) fun found => rfl
    · refine .spared (.lift (member answer "decisions")) fun decisions => ?_
      refine .spared (.lift (itemsOf decisions)) fun items => ?_
      refine .spared (decisionsOf_spares files seen items) fun found => ?_
      exact .map _ 0 (ih _) fun more => rfl

/-- The rate that is reported of calls, one for each of some items. It is the share of those that did not fail only if
none or all of them did. -/
structure Reports (tool : String) (items : Nat) (log : List LookupExchange) (rate : Rat) : Prop where
  calls : (callsOf tool log).length = items
  eq : rate = lookupRate items (failures tool log)
  mem_iff : 0 ≤ rate ∧ rate ≤ 1 ↔ 2 * failures tool log ≤ items ∨ failures tool log = items
  share_iff : 0 < items → (rate = ((items : Rat) - failures tool log) / items ↔
    failures tool log = 0 ∨ failures tool log = items)

theorem Reports.of_calls {tool : String} {items : Nat} {log : List LookupExchange}
    (calls : (callsOf tool log).length = items) : Reports tool items log (lookupRate items (failures tool log)) := by
  have within : failures tool log ≤ items := calls ▸ failures_le tool log
  exact ⟨calls, rfl, lookupRate_mem_iff within, lookupRate_eq_share_iff within⟩

theorem Searches.reports {α : Type} {tool : String} {items : Nat} {analysis : Analysis (List α × List String)}
    (searches : Searches tool items 0 analysis) (now : DateTime) (operation : String) :
    (analysis >>= fun found => pure (lookupOutcome now found.1 operation found.2 items)).run.Ensures
      fun log result => ∀ outcome, result = .ok outcome → Reports tool items log outcome.successRate := by
  refine Analysis.ensures_map _ (Program.Ensures.weaken searches fun log result holds outcome given => ?_)
  cases result with
  | error misshape => cases given
  | ok found =>
    cases given
    obtain ⟨calls, warned⟩ := holds found rfl
    rw [lookupOutcome_rate, warned, Nat.zero_add]
    exact .of_calls calls

variable (now : DateTime) (hasTools : Bool)

theorem affectedEntities_reports : (affectedEntities now hasTools project files).run.Ensures fun log result =>
    ∀ outcome, result = .ok outcome → Reports "entity_search"
      (if hasTools then (files.modified ++ files.deleted).take maxEntityFiles else []).length log outcome.successRate := by
  unfold affectedEntities
  cases hasTools with
  | false =>
    rintro _ ⟨⟩
    exact .of_calls rfl
  | true => exact (entitiesOfFiles_searches project files.deleted _).reports now _

theorem affectedDecisions_reports : (affectedDecisions now hasTools project files).run.Ensures fun log result =>
    ∀ outcome, result = .ok outcome → Reports "decision_search"
      (if hasTools then (fileNames files.all).take maxDecisionNames else []).length log outcome.successRate := by
  unfold affectedDecisions
  cases hasTools with
  | false =>
    rintro _ ⟨⟩
    exact .of_calls rfl
  | true => exact (decisionsForNames_searches project files [] _).reports now _

end

end Impact

/-- A request put to the stored graph, with its reply. -/
abbrev GraphExchange : Type := (request : GraphRequest) × Except StoreFailure request.Value

namespace Structure

/-- Whether an edge was found or made. -/
def joins : GraphExchange → Bool
  | ⟨.hasEdge _ _ _, .ok found⟩ => found
  | ⟨.create _ _ _ _ _, .ok _⟩ => true
  | _ => false

/-- A relationship has been stored if in the end its edge is found or made. -/
def isStored (log : List GraphExchange) : Bool :=
  log.getLast?.any joins

variable {now : DateTime} {filePath : Option String} {relationship : ExtractedRelationship}

theorem isStored_append {log more : List GraphExchange} (some : more ≠ []) :
    isStored (log ++ more) = isStored more := by
  rw [isStored, List.getLast?_append_of_ne_nil _ some, isStored]

theorem isStored_of_forall {log : List GraphExchange} (apart : ∀ x ∈ log, joins x = false) : isStored log = false := by
  unfold isStored
  cases last : log.getLast? with
  | none => rfl
  | some x => exact apart x (List.mem_of_getLast? last)

/-- Edges are left alone while ends are looked for. -/
theorem resolve_ensures (now : DateTime) (name : String) (tag filePath : Option String) (resolved : Resolved) :
    (resolve now name tag filePath resolved).run.Ensures fun log _ => ∀ x ∈ log, joins x = false := by
  unfold resolve
  cases resolved.lookup name with
  | some id => exact .pure (List.forall_mem_nil _)
  | none =>
    refine Task.ensures_call (fun failure => List.forall_mem_singleton.mpr rfl) fun found => ?_
    cases found with
    | some entity => exact .pure (List.forall_mem_singleton.mpr rfl)
    | none =>
      dsimp only
      cases Placeholder.entity now name tag filePath with
      | error invalid => exact .pure (List.forall_mem_singleton.mpr rfl)
      | ok entity =>
        have both (reply : Except StoreFailure Entity) (x : GraphExchange)
            (member : x ∈ [⟨.entityNamed name, .ok none⟩, ⟨.upsert entity, reply⟩]) : joins x = false := by
          rcases List.mem_pair.mp member with rfl | rfl <;> rfl
        exact Task.ensures_call (fun failure => both (.error failure)) fun stored => .pure (both (.ok stored))

theorem connect_ensures (source target : String) (relationship : ExtractedRelationship) :
    (connect source target relationship).run.Ensures fun log result => log ≠ [] ∧ isStored log = result.isOk := by
  refine Task.ensures_call (fun failure => ⟨nofun, rfl⟩) fun found => ?_
  cases found with
  | true => exact .pure ⟨nofun, rfl⟩
  | false => exact Task.ensures_call (fun failure => ⟨nofun, rfl⟩) fun edge => .pure ⟨nofun, rfl⟩

/-- A relationship that is not stored gives one warning. -/
theorem writeOne_ensures (now : DateTime) (filePath : Option String) (relationship : ExtractedRelationship)
    (progress : Progress) : (writeOne now filePath relationship progress).run.Ensures fun log result =>
      ∃ next, result = .ok next ∧
        next.warnings.length = progress.warnings.length + if isStored log then 0 else 1 := by
  unfold writeOne
  refine Task.ensures_attempt ((resolve_ensures ..).weaken fun first source apart => ?_)
  cases source with
  | error failure =>
    refine .pure ⟨_, rfl, ?_⟩
    rw [List.append_nil, isStored_of_forall apart]
    exact List.length_append
  | ok found =>
    refine Task.ensures_attempt ((resolve_ensures ..).weaken fun second target more => ?_)
    have none : isStored (first ++ second) = false :=
      isStored_of_forall (List.forall_mem_append.mpr ⟨apart, more⟩)
    cases target with
    | error failure =>
      refine .pure ⟨_, rfl, ?_⟩
      rw [List.append_nil, none]
      exact List.length_append
    | ok found =>
      refine Task.ensures_attempt ((connect_ensures _ _ _).weaken fun third edge ⟨nonempty, stored⟩ => ?_)
      have whole : isStored (first ++ (second ++ (third ++ []))) = edge.isOk := by
        rw [List.append_nil, ← List.append_assoc, isStored_append nonempty, stored]
      cases edge with
      | error failure =>
        refine .pure ⟨_, rfl, ?_⟩
        rw [whole]
        exact List.length_append
      | ok created =>
        refine .pure ⟨_, rfl, ?_⟩
        rw [whole]
        rfl

section

variable {τ : Type} (answer : (request : GraphRequest) → τ → Except StoreFailure request.Value × τ)

/-- What is asked for while one relationship is stored, in some state. -/
def IsLogOf (now : DateTime) (filePath : Option String) (relationship : ExtractedRelationship)
    (log : List GraphExchange) : Prop :=
  ∃ progress start, log = (writeOne now filePath relationship progress).run.exchanges answer start

/-- Relationships are stored one after the other, whatever becomes of each. -/
theorem writeAll_logs (now : DateTime) (filePath : Option String) (relationships : List ExtractedRelationship)
    (progress : Progress) (store : τ) : ∃ next logs,
      ((writeAll now filePath relationships progress).run.run answer store).1 = .ok next ∧
      (writeAll now filePath relationships progress).run.exchanges answer store = logs.flatten ∧
      List.Forall₂ (IsLogOf answer now filePath) relationships logs ∧
      next.warnings.length + logs.countP isStored = progress.warnings.length + relationships.length := by
  induction relationships generalizing progress store with
  | nil => exact ⟨progress, [], rfl, rfl, .nil, rfl⟩
  | cons relationship rest ih =>
    -- Storing one never fails as a whole, so the rest is stored after it.
    obtain ⟨middle, one, warned⟩ := (writeOne_ensures now filePath relationship progress).exchanges answer store
    rw [writeAll, Task.run_bind_ok answer one, Task.exchanges_bind_ok one]
    obtain ⟨next, logs, finished, whole, each, counted⟩ := ih middle
      ((writeOne now filePath relationship progress).run.run answer store).2
    refine ⟨next, _ :: logs, finished, ?_, .cons ⟨progress, store, rfl⟩ each, ?_⟩
    · rw [List.flatten_cons, ← whole]
    · rw [List.countP_cons, List.length_cons]
      split at warned
      · rename_i stored
        rw [if_pos stored]
        omega
      · rename_i unstored
        rw [if_neg unstored]
        omega

/-- All relationships count as processed. -/
theorem write_items {relationships : List ExtractedRelationship} {progress : Progress} {store : τ}
    (finished : ((writeAll now filePath relationships {}).run.run answer store).1 = .ok progress) :
    ∃ outcome, ((write now relationships filePath).run.run answer store).1 = .ok outcome ∧
      (write now relationships filePath).run.exchanges answer store =
        (writeAll now filePath relationships {}).run.exchanges answer store ∧
      outcome.processed = relationships.length ∧ outcome.failed = progress.warnings.length ∧
      (outcome.isSuccess = true ↔ progress.warnings.length = 0) := by
  unfold write
  rw [Task.run_bind_ok answer finished, Task.exchanges_bind_ok finished]
  dsimp only
  by_cases clean : progress.warnings.length = 0
  · rw [if_pos clean]
    exact ⟨_, rfl, List.append_nil _, rfl, by rw [clean]; rfl, iff_of_true rfl clean⟩
  · rw [if_neg clean]
    exact ⟨_, rfl, List.append_nil _, rfl, rfl, iff_of_false Bool.false_ne_true clean⟩

/-- The share of the relationships that were stored is what is reported. -/
theorem write_rate (now : DateTime) (relationships : List ExtractedRelationship) (filePath : Option String)
    (store : τ) : ∃ outcome logs, ((write now relationships filePath).run.run answer store).1 = .ok outcome ∧
      (write now relationships filePath).run.exchanges answer store = logs.flatten ∧
      List.Forall₂ (IsLogOf answer now filePath) relationships logs ∧
      0 ≤ outcome.successRate ∧ outcome.successRate ≤ 1 ∧
      (0 < relationships.length → outcome.successRate = (logs.countP isStored : Rat) / relationships.length) := by
  obtain ⟨progress, logs, finished, whole, each, counted⟩ := writeAll_logs answer now filePath relationships {} store
  obtain ⟨outcome, made, same, processed, failed, success⟩ := write_items answer finished
  have items : progress.warnings.length + logs.countP isStored = relationships.length :=
    counted.trans (Nat.zero_add _)
  rw [← items] at processed ⊢
  exact ⟨outcome, logs, made, same.trans whole, each, Outcome.successRate_share processed failed success⟩

end

end Structure

open Impact Structure in
/-- Whatever is answered to them, lookups report the share of the items whose searches did not fail only if none or all
of them failed, and otherwise less: a failure is taken off twice. Writing relationships always reports the share of those
that were stored. -/
theorem successRate_eq_share_iff {σ τ : Type} (respond : (request : LookupRequest) → σ → request.Reply × σ) (state : σ)
    (now : DateTime) (hasTools : Bool) (project : String) (files : ChangedFiles)
    (answer : (request : GraphRequest) → τ → Except StoreFailure request.Value × τ) (store : τ)
    (relationships : List ExtractedRelationship) (filePath : Option String) :
    (∀ outcome, ((affectedEntities now hasTools project files).run.run respond state).1 = .ok outcome →
      Reports "entity_search" (if hasTools then (files.modified ++ files.deleted).take 20 else []).length
        ((affectedEntities now hasTools project files).run.exchanges respond state) outcome.successRate) ∧
    (∀ outcome, ((affectedDecisions now hasTools project files).run.run respond state).1 = .ok outcome →
      Reports "decision_search" (if hasTools then (fileNames files.all).take 10 else []).length
        ((affectedDecisions now hasTools project files).run.exchanges respond state) outcome.successRate) ∧
    ∃ outcome logs, ((write now relationships filePath).run.run answer store).1 = .ok outcome ∧
      (write now relationships filePath).run.exchanges answer store = logs.flatten ∧
      List.Forall₂ (IsLogOf answer now filePath) relationships logs ∧
      0 ≤ outcome.successRate ∧ outcome.successRate ≤ 1 ∧
      (0 < relationships.length → outcome.successRate = (logs.countP isStored : Rat) / relationships.length) :=
  ⟨(affectedEntities_reports project files now hasTools).exchanges respond state,
    (affectedDecisions_reports project files now hasTools).exchanges respond state,
    write_rate answer now relationships filePath store⟩

theorem ok_of_toOption_map {ε α β : Type} {result : Except ε α} {f : α → β} {b : β}
    (mapped : result.toOption.map f = some b) : ∃ a, result = .ok a ∧ f a = b := by
  cases result with
  | error e => cases mapped
  | ok a => exact ⟨a, rfl, Option.some.inj mapped⟩

open Impact in
/-- One of four searches fails, and two thirds are reported. -/
theorem successRate_eq_share_iff_movedFiles : ∃ outcome,
    ((affectedEntities default true "proj" movedFiles).run.run (indexing ["src/b.py"]).respond {}).1 = .ok outcome ∧
    outcome.successRate = 2 / 3 ∧
    Reports "entity_search" 4
      ((affectedEntities default true "proj" movedFiles).run.exchanges (indexing ["src/b.py"]).respond {})
      outcome.successRate := by
  have shown : ((affectedEntities default true "proj" movedFiles).run.run (indexing ["src/b.py"]).respond {}).1.toOption.map
      (·.successRate) = some (2 / 3) := by
    decide +kernel
  obtain ⟨outcome, run, rate⟩ := ok_of_toOption_map shown
  exact ⟨outcome, run, rate, (successRate_eq_share_iff (indexing ["src/b.py"]).respond {} default true "proj" movedFiles
    (fun _ store => (.error .idTaken, store)) () [] none).1 outcome run⟩

open Impact in
/-- Where two of three searches fail, the rate is negative. -/
theorem affectedEntities_rate_negative :
    let files : ChangedFiles := { modified := ["src/a.py", "src/b.py", "src/c.py"] }
    let source := indexing ["src/b.py", "src/c.py"]
    ∃ outcome, ((affectedEntities default true "proj" files).run.run source.respond {}).1 = .ok outcome ∧
      outcome.successRate = -1 ∧
      failures "entity_search" ((affectedEntities default true "proj" files).run.exchanges source.respond {}) = 2 := by
  intro files source
  have shown : ((affectedEntities default true "proj" files).run.run source.respond {}).1.toOption.map
      (·.successRate) = some (-1) := by
    decide +kernel
  obtain ⟨outcome, run, rate⟩ := ok_of_toOption_map shown
  exact ⟨outcome, run, rate, by decide +kernel⟩

end CodeGraph
