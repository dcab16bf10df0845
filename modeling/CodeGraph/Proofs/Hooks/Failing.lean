import CodeGraph.Proofs.Hooks.Asking
import CodeGraph.Proofs.Schema.Readers

namespace CodeGraph

theorem HookType.ofName?_name (hookType : HookType) : HookType.ofName? hookType.name = some hookType := by
  cases hookType <;> decide

/-- A value is read as a whole number. -/
def Json.IsCount (value : Json) : Prop :=
  ∃ n, Reader.int value = .ok n

theorem Reader.int_error_ne_nil {value : Json} {issues : List Issue}
    (wrong : Reader.int value = .error issues) : issues ≠ [] := by
  rintro rfl
  cases value with
  | float x =>
    simp only [Reader.int, Checked.issue] at wrong
    split at wrong
    · simp at wrong
    · split at wrong
      · simp at wrong
      · split at wrong <;> simp at wrong
  | str s =>
    simp only [Reader.int, Checked.issue] at wrong
    split at wrong <;> simp at wrong
  | _ => simp [Reader.int, Checked.issue] at wrong

theorem Json.IsCount.of_issues {α : Type} {name : String} {get : α → Int} {write : Int → Json}
    {set : Int → α → α} {members : Members} {value : Json}
    (given : Members.get? members name = some value)
    (valid : (Field.optional name Reader.int get write set).issues members = []) : value.IsCount := by
  cases read : Reader.int value with
  | ok n => exact ⟨n, read⟩
  | error issues =>
    simp only [Field.issues_optional, given, read, List.map_eq_nil_iff] at valid
    exact absurd valid (Reader.int_error_ne_nil read)

namespace HookReport

/-- The counts of a report are whole numbers. -/
def Counted (report : HookReport) : Prop :=
  report.filesIndexed.IsCount ∧ report.entitiesUpdated.IsCount

/-- The members that the result for a report is read from. -/
def members (report : HookReport) (hookType : HookType) : Members :=
  [("success", .bool report.success), ("hook_type", .str hookType.name),
    ("files_indexed", report.filesIndexed), ("entities_updated", report.entitiesUpdated),
    ("message", .str report.message), ("warnings", Json.strings report.warnings),
    ("errors", Json.strings report.errors)]

theorem result_eq_ok_iff {report : HookReport} {hookType : HookType} {result : HookResult} :
    report.result hookType = .ok result ↔
      (∀ field ∈ HookResult.schema.fields, field.issues (report.members hookType) = []) ∧
        HookResult.schema.fields.foldl (fun a field => field.put (report.members hookType) a)
          HookResult.schema.initial = result := by
  have plain : HookResult.schema.tidy (.obj (report.members hookType)) =
      .obj (report.members hookType) := rfl
  exact Schema.validate_eq_ok_iff.trans (Schema.read_obj_eq_ok_iff plain)

/-- A report whose counts are whole numbers has a result that is as it says. -/
theorem Counted.result {report : HookReport} (counted : report.Counted) (hookType : HookType) :
    ∃ result, report.result hookType = .ok result ∧ result.success = report.success := by
  -- The other members are written from values of their own kinds, so that they are always valid.
  obtain ⟨⟨files, filesRead⟩, ⟨entities, entitiesRead⟩⟩ := counted
  refine ⟨_, result_eq_ok_iff.mpr ⟨?_, rfl⟩, ?_⟩
  · simp [HookResult.schema, members, Field.issues_required, Field.issues_optional, Members.get?,
      List.lookup_cons, filesRead, entitiesRead, Reader.bool, Reader.text, Reader.named,
      HookType.ofName?_name, Reader.list_strings]
  · simp [HookResult.schema, members, Field.put_optional, Field.put_required, Members.get?,
      List.lookup_cons, filesRead, entitiesRead, Reader.bool, Reader.text, Reader.named,
      HookType.ofName?_name, Reader.list_strings]

/-- Other counts leave a report without a result. -/
theorem counted_of_result {report : HookReport} {hookType : HookType} {result : HookResult}
    (read : report.result hookType = .ok result) : report.Counted := by
  obtain ⟨valid, _⟩ := result_eq_ok_iff.mp read
  simp only [HookResult.schema, List.forall_mem_cons] at valid
  obtain ⟨_, _, _, files, entities, _⟩ := valid
  exact ⟨.of_issues rfl files, .of_issues rfl entities⟩

end HookReport

/-- The counts that an answer gives for indexed files are whole numbers. -/
def CountsFiles (answer : Members) : Prop :=
  ∀ key ∈ ["filesIndexed", "entitiesExtracted"], ∀ value,
    Members.get? answer key = some value → value.isTruthy = true → value.IsCount

/-- The index has given counts that are no whole numbers. -/
def Miscounted (found : List Json) : Prop :=
  ∃ answer, .obj answer ∈ found ∧ ¬ CountsFiles answer

/-- Tools answer with objects. -/
def AreObjects (found : List Json) : Prop :=
  ∀ value ∈ found, ∃ members, value = .obj members

theorem miscounted_singleton {answer : Members} : Miscounted [.obj answer] ↔ ¬ CountsFiles answer := by
  simp [Miscounted]

theorem Json.isCount_int (n : Int) : (Json.int n).IsCount :=
  ⟨n, rfl⟩

/-- A count that is missing or counts as false is replaced by one that is known. -/
theorem isCount_orElse {answer : Members} {key : String} (n : Int) :
    (Impact.orElse ((Members.get? answer key).getD .null) (.int n)).IsCount ↔
      ∀ value, Members.get? answer key = some value → value.isTruthy = true → value.IsCount := by
  unfold Impact.orElse
  cases given : Members.get? answer key with
  | none => simp [Json.isTruthy, Json.isCount_int]
  | some value =>
    simp only [Option.getD_some, Option.some.injEq, forall_eq']
    by_cases counts : value.isTruthy = true
    · simp [counts]
    · simp [counts, Json.isCount_int]

namespace HookHandler

variable {handler : HookHandler} {now : DateTime} {event : HookEvent}

theorem callTool_hears (handler : HookHandler) (name : String) (parameters : Json) :
    Lookup.Hears name (handler.callTool name parameters) fun found reply =>
      found = reply.toOption.toList := by
  unfold callTool
  split
  · exact .pure rfl
  · exact Lookup.Hears.tool name parameters

theorem index_hears (handler : HookHandler) (event : HookEvent) (files : List String) :
    Lookup.Hears "index_files" (handler.index event files) fun found answer =>
      AreObjects found → match answer with
        | .error _ => ¬ Miscounted found
        | .ok answer => ∃ indexed, answer = .ok indexed ∧
          (indexed.files.IsCount ∧ indexed.entities.IsCount ↔ ¬ Miscounted found) := by
  refine (callTool_hears handler "index_files" _).bind ?_
  rintro found (reason | answer) rfl
  · refine .pure fun objects => ?_
    simp [Miscounted, Except.toOption]
  · refine .pure fun objects => ?_
    obtain ⟨members, rfl⟩ := objects answer (by simp [Except.toOption])
    refine ⟨_, rfl, ?_⟩
    simp only [Except.toOption, Option.toList_some, List.append_nil, miscounted_singleton,
      Classical.not_not, isCount_orElse]
    simp [CountsFiles]

theorem not_miscounted_nil : ¬ Miscounted [] := by
  simp [Miscounted]

theorem knownOr_spares (called : String) (files : Option (List String)) (arguments : List String) :
    Lookup.Spares called (knownOr files (Git.listed arguments)).run := by
  cases files with
  | none => exact (Git.listed_reads arguments).spares
  | some files => exact Lookup.Spares.pure _

/-- A report that succeeds, with counts that are whole numbers unless the index gave others. -/
def CountedOnly {ε : Type} (found : List Json) (answer : Except ε HookReport) : Prop :=
  AreObjects found → ∃ report, answer = .ok report ∧ report.success = true ∧
    (report.Counted ↔ ¬ Miscounted found)

theorem CountedOnly.unasked {ε : Type} {report : HookReport} (succeeds : report.success = true)
    (counted : report.Counted) : CountedOnly [] (.ok report : Except ε HookReport) :=
  fun _ => ⟨report, rfl, succeeds, iff_of_true counted not_miscounted_nil⟩

theorem indexStaged_hears (handler : HookHandler) (event : HookEvent) (staged : List String) :
    Lookup.Hears "index_files" (handler.indexStaged event staged) CountedOnly := by
  have zero : Json.IsCount (.int 0) := Json.isCount_int 0
  unfold indexStaged
  dsimp only
  split
  · exact .pure (.unasked rfl ⟨zero, zero⟩)
  · split
    · exact .pure (.unasked rfl ⟨zero, zero⟩)
    · split
      · exact .pure (.unasked rfl ⟨Json.isCount_int _, zero⟩)
      · refine (index_hears handler event staged).bind fun found answer holds => ?_
        cases answer with
        | error reason =>
          refine .pure fun objects => ⟨_, rfl, rfl, iff_of_true ⟨zero, zero⟩ ?_⟩
          rw [List.append_nil] at objects ⊢
          exact holds objects
        | ok answer =>
          refine .pure fun objects => ?_
          rw [List.append_nil] at objects ⊢
          obtain ⟨indexed, rfl, counted⟩ := holds objects
          exact ⟨_, rfl, rfl, counted⟩

theorem CountedOnly.mapError {ε ε' : Type} {found : List Json} {answer : Except ε HookReport}
    (counted : CountedOnly found answer) (f : ε → ε') : CountedOnly found (answer.mapError f) := by
  intro objects
  obtain ⟨report, rfl, reports⟩ := counted objects
  exact ⟨report, rfl, reports⟩

theorem preCommit_hears (handler : HookHandler) (event : HookEvent) :
    Lookup.Hears "index_files" (handler.preCommit event) fun found answer =>
      (∀ refusal, answer ≠ .error (.refused refusal)) → CountedOnly found answer := by
  have zero : Json.IsCount (.int 0) := Json.isCount_int 0
  unfold preCommit
  split
  · exact .pure fun _ => .unasked rfl ⟨zero, zero⟩
  · refine Lookup.Hears.bind (knownOr_spares "index_files" event.stagedFiles _) ?_
    rintro _ (refusal | staged) rfl
    · exact .pure fun asked => absurd rfl (asked refusal)
    · refine (indexStaged_hears handler event staged).bind fun found answer counted => .pure fun _ => ?_
      rw [List.append_nil]
      exact counted.mapError _

/-- What has come of indexing merged files, with counts that are whole numbers unless the index gave
others. -/
def MergedOnly (found : List Json) (merge : Merge) : Prop :=
  AreObjects found → (merge.filesIndexed.IsCount ∧ merge.entitiesUpdated.IsCount ↔ ¬ Miscounted found)

theorem markMerged_hears (handler : HookHandler) (event : HookEvent) (merge : Merge) (desk : HookDesk) :
    Lookup.Hears "index_files" ((handler.markMerged event merge).run desk) fun found out =>
      found = [] ∧ out.1.filesIndexed = merge.filesIndexed ∧
        out.1.entitiesUpdated = merge.entitiesUpdated := by
  unfold markMerged
  split
  · exact ⟨rfl, rfl, rfl⟩
  · refine Lookup.Hears.pure ?_
    dsimp only
    split <;> exact ⟨rfl, rfl, rfl⟩

theorem indexMerged_hears (handler : HookHandler) (event : HookEvent) (merged : List String)
    (desk : HookDesk) :
    Lookup.Hears "index_files" ((handler.indexMerged event merged).run desk) fun found out =>
      MergedOnly found out.1 := by
  have zero : Json.IsCount (.int 0) := Json.isCount_int 0
  unfold indexMerged
  dsimp only
  split
  · exact fun _ => iff_of_true ⟨zero, zero⟩ not_miscounted_nil
  · split
    · exact fun _ => iff_of_true ⟨zero, zero⟩ not_miscounted_nil
    · split
      · exact fun _ => iff_of_true ⟨Json.isCount_int _, zero⟩ not_miscounted_nil
      · refine Lookup.Hears.bind ((index_hears handler event merged).lift desk) ?_
        rintro found ⟨answer, _⟩ ⟨holds, rfl⟩
        rcases answer with reason | misshape | indexed
        · refine .pure fun objects => iff_of_true ⟨zero, zero⟩ ?_
          rw [List.append_nil] at objects ⊢
          exact holds objects
        · refine .pure fun objects => ?_
          rw [List.append_nil] at objects
          obtain ⟨_, wrong, _⟩ := holds objects
          contradiction
        · refine (markMerged_hears handler event _ _).weaken ?_
          rintro _ out ⟨rfl, files, entities⟩ objects
          rw [List.append_nil] at objects ⊢
          obtain ⟨_, ⟨⟩, counted⟩ := holds objects
          rw [files, entities]
          exact counted

theorem syncMerged_hears (handler : HookHandler) (event : HookEvent) (desk : HookDesk) :
    Lookup.Hears "index_files" ((handler.syncMerged event).run desk) fun found out =>
      ∀ merge, out.1 = .ok merge → MergedOnly found merge := by
  unfold syncMerged
  split
  · rintro _ ⟨⟩ _
    exact iff_of_true ⟨Json.isCount_int 0, Json.isCount_int 0⟩ not_miscounted_nil
  · refine Lookup.Hears.bind ((knownOr_spares "index_files" event.mergedFiles _).lift desk) ?_
    rintro _ ⟨refusal | merged, next⟩ ⟨rfl, -⟩
    · exact .pure nofun
    · refine (indexMerged_hears handler event merged next).bind fun found out counted => .pure ?_
      rintro _ ⟨⟩
      rw [List.append_nil]
      exact counted

theorem printSummary_hears {called : String} (handler : HookHandler) (report : ImpactReport)
    (desk : HookDesk) :
    Lookup.Spares called ((handler.printSummary report).run desk) := by
  unfold printSummary
  split <;> exact Lookup.Spares.pure _

theorem reportMerged_hears (handler : HookHandler) (now : DateTime) (event : HookEvent) (merge : Merge)
    (desk : HookDesk) :
    Lookup.Hears "index_files" ((handler.reportMerged now event merge).run desk) fun found out =>
      found = [] ∧ out.1.filesIndexed = merge.filesIndexed ∧
        out.1.entitiesUpdated = merge.entitiesUpdated := by
  unfold reportMerged
  split
  · exact ⟨rfl, rfl, rfl⟩
  · have analyzed : Lookup.Spares "index_files" (handler.analyzeMerged now event).run :=
      Lookup.Spares.bind_ok (Git.baseBranch_reads.spares.adapt _) fun baseBranch =>
        Impact.analyze_spares (by decide) now handler.hasTools _
    refine Lookup.Hears.bind (analyzed.lift desk) ?_
    rintro _ ⟨fault | report, _⟩ ⟨rfl, rfl⟩
    · exact ⟨rfl, rfl, rfl⟩
    · refine Lookup.Hears.bind (Lookup.Spares.pure _) ?_
      rintro _ _ rfl
      refine Lookup.Hears.bind (printSummary_hears handler report _) ?_
      rintro _ _ rfl
      exact ⟨rfl, rfl, rfl⟩

theorem postMerge_hears (handler : HookHandler) (now : DateTime) (event : HookEvent) (desk : HookDesk) :
    Lookup.Hears "index_files" ((handler.postMerge now event).run desk) fun found out =>
      (∀ refusal, out.1 ≠ .error (.refused refusal)) → CountedOnly found out.1 := by
  unfold postMerge
  refine Lookup.Hears.bind (syncMerged_hears handler event desk) ?_
  rintro found ⟨refusal | merge, next⟩ merged
  · exact .pure fun asked => absurd rfl (asked refusal)
  · refine Lookup.Hears.bind (reportMerged_hears handler now event merge next) ?_
    rintro _ ⟨last, final⟩ ⟨rfl, files, entities⟩
    refine Lookup.Hears.pure fun _ objects => ⟨_, rfl, rfl, ?_⟩
    rw [List.nil_append, List.append_nil] at objects ⊢
    rw [HookReport.Counted, files, entities]
    exact merged merge rfl objects

/-- The index says that it is out of date, or does not say that it is up to date. -/
def Outdated (found : List Json) : Prop :=
  ∃ answer, .obj answer ∈ found ∧
    ∀ value, Members.get? answer "isUpToDate" = some value → value.isTruthy = false

theorem outdated_singleton {answer : Members} :
    Outdated [.obj answer] ↔ ((Members.get? answer "isUpToDate").getD .null).isTruthy = false := by
  cases given : Members.get? answer "isUpToDate" with
  | none => simp [Outdated, given, Json.isTruthy]
  | some value => simp [Outdated, given]

theorem prePush_hears (handler : HookHandler) (event : HookEvent) :
    Lookup.Hears "index_status" (handler.prePush event) fun found answer =>
      AreObjects found → ∃ report, answer = .ok report ∧ report.Counted ∧
        (report.success = false ↔
          handler.config.validateOnPush = true ∧ handler.hasTools = true ∧ Outdated found) := by
  have counted : Json.IsCount (.int 0) ∧ Json.IsCount (.int 0) :=
    ⟨Json.isCount_int 0, Json.isCount_int 0⟩
  unfold prePush
  split
  · rename_i off
    refine .pure fun _ => ⟨_, rfl, counted, iff_of_false Bool.true_eq_false.mp ?_⟩
    rintro ⟨on, _⟩
    simp [on] at off
  · rename_i on
    split
    · rename_i without
      refine .pure fun _ => ⟨_, rfl, counted, iff_of_false Bool.true_eq_false.mp ?_⟩
      rintro ⟨_, tools, _⟩
      simp [tools] at without
    · rename_i tools
      have checked : handler.config.validateOnPush = true ∧ handler.hasTools = true := by
        simpa using And.intro on tools
      refine (callTool_hears handler "index_status" _).bind ?_
      rintro _ (reason | answer) rfl
      · refine .pure fun _ => ⟨_, rfl, counted, iff_of_false Bool.true_eq_false.mp ?_⟩
        simp [Outdated, Except.toOption]
      · refine .pure fun objects => ?_
        obtain ⟨members, rfl⟩ := objects answer (by simp [Except.toOption])
        have said : Impact.member (.obj members) "isUpToDate" =
            .ok ((Members.get? members "isUpToDate").getD .null) := rfl
        simp only [Except.toOption, Option.toList_some, List.append_nil, outdated_singleton, checked,
          true_and]
        cases current : ((Members.get? members "isUpToDate").getD .null).isTruthy with
        | true =>
          simp only [said, bind, Except.bind, current, if_true]
          exact ⟨_, rfl, counted, Iff.rfl⟩
        | false =>
          simp only [said, bind, Except.bind, current]
          exact ⟨_, rfl, counted, iff_of_true rfl trivial⟩

theorem postCheckout_hears {called : String} (event : HookEvent) :
    Lookup.Hears called (postCheckout event).run fun _ answer =>
      ∀ report, answer = .ok report → report.success = true ∧ report.Counted := by
  have counted : Json.IsCount (.int 0) ∧ Json.IsCount (.int 0) :=
    ⟨Json.isCount_int 0, Json.isCount_int 0⟩
  unfold postCheckout
  split
  · rintro _ ⟨⟩
    exact ⟨rfl, counted⟩
  · refine Lookup.Hears.bind (Git.changes_reads _).spares ?_
    rintro _ (refusal | changed) _
    · exact .pure nofun
    · rintro _ ⟨⟩
      exact ⟨rfl, counted⟩

/-- A push is blocked. -/
def Blocks (handler : HookHandler) (event : HookEvent) (log : List LookupExchange) : Prop :=
  event.type = .prePush ∧ handler.config.validateOnPush = true ∧ handler.hasTools = true ∧
    Outdated (answers "index_status" log)

/-- Files are indexed, with counts that are no whole numbers. -/
def Miscounts (event : HookEvent) (log : List LookupExchange) : Prop :=
  (event.type = .preCommit ∨ event.type = .postMerge) ∧ Miscounted (answers "index_files" log)

theorem dispatch_ensures (handler : HookHandler) (now : DateTime) (event : HookEvent)
    (desk : HookDesk) :
    ((handler.dispatch now event).run desk).Ensures fun log out =>
      (∀ tool, AreObjects (answers tool log)) → (∀ refusal, out.1 ≠ .error (.refused refusal)) →
        ∃ report, out.1 = .ok report ∧ (report.success = false ↔ handler.Blocks event log) ∧
          (report.Counted ↔ ¬ Miscounts event log) := by
  unfold dispatch Blocks Miscounts
  cases event.type with
  | preCommit =>
    refine Program.Ensures.weaken ((preCommit_hears handler event).lift desk) ?_
    rintro log ⟨answer, _⟩ ⟨counted, _⟩ objects asked
    obtain ⟨report, same, succeeds, counts⟩ := counted asked (objects _)
    exact ⟨report, same, by simp [succeeds], by simpa using counts⟩
  | postMerge =>
    refine Program.Ensures.weaken (postMerge_hears handler now event desk) ?_
    rintro log out counted objects asked
    obtain ⟨report, same, succeeds, counts⟩ := counted asked (objects _)
    exact ⟨report, same, by simp [succeeds], by simpa using counts⟩
  | prePush =>
    refine Program.Ensures.weaken ((prePush_hears handler event).lift desk) ?_
    rintro log ⟨answer, _⟩ ⟨checked, _⟩ objects _
    obtain ⟨report, same, counted, fails⟩ := checked (objects _)
    exact ⟨report, same, by simpa using fails, by simpa using counted⟩
  | postCheckout =>
    have switched : Lookup.Hears "" ((postCheckout event).adapt Impact.Fault.refused).run fun _ answer =>
        (∀ refusal, answer ≠ .error (.refused refusal)) →
          ∃ report, answer = .ok report ∧ report.success = true ∧ report.Counted := by
      refine .adapt ((postCheckout_hears event).weaken fun _ answer holds asked => ?_)
      cases answer with
      | error refusal => exact absurd rfl (asked refusal)
      | ok report => exact ⟨report, rfl, holds report rfl⟩
    refine Program.Ensures.weaken (switched.lift desk) ?_
    rintro log ⟨_, _⟩ ⟨holds, _⟩ _ asked
    obtain ⟨report, same, succeeds, counted⟩ := holds asked
    exact ⟨report, same, by simp [succeeds], by simpa using counted⟩

/-- The index is asked once before a push, if that is to be done and there is time for it. -/
theorem prePush_asks (handler : HookHandler) {seconds : Float}
    (checked : handler.config.validateOnPush = true) (tools : handler.hasTools = true)
    (timely : handler.config.timeoutSeconds = .ok seconds) (event : HookEvent) :
    (handler.prePush event).Ensures fun log _ => ∃ reply,
      log = [⟨.tool "index_status" (.obj [("projectId", .str (handler.project event))]), reply⟩] := by
  unfold prePush callTool
  rw [checked, tools, timely]
  rintro (reason | answer) <;> exact ⟨_, rfl⟩

end HookHandler

/-- A result fails where its report does, or where the report has no result. -/
theorem HookResult.ofReport_fails {report : HookReport} {hookType : HookType} :
    (ofReport hookType (.ok report)).success = false ↔ report.success = false ∨ ¬ report.Counted := by
  by_cases counted : report.Counted
  · obtain ⟨result, read, success⟩ := counted.result hookType
    simp [ofReport, read, success, counted]
  · cases read : report.result hookType with
    | ok result => exact absurd (HookReport.counted_of_result read) counted
    | error invalid => simp [ofReport, read, failure, counted]

namespace HookHandler

/-- Handling an event is dispatching it, whatever comes of that, and keeping a record. -/
theorem handle_ensures {handler : HookHandler} {now : DateTime} {event : HookEvent} {desk : HookDesk}
    {wanted : List LookupExchange → Except Impact.Fault HookReport × HookDesk → Prop}
    (all : handler.handled = HookType.all)
    (ensures : ((handler.dispatch now event).run desk).Ensures wanted) (duration : Float) :
    ((handler.handle now event duration).run desk).Ensures fun log out => ∃ answer last,
      wanted log (answer, last) ∧
        out.1 = { HookResult.ofReport event.type (answer.mapError (·.message)) with duration } ∧
        out.2 = handler.recorded event out.1 last := by
  have handled : (!handler.handled.contains event.type) = false := by
    rw [all]
    cases event.type <;> rfl
  unfold handle report
  rw [handled]
  refine .bind (.bind (ensures.weaken ?_))
  rintro log ⟨answer, last⟩ holds
  refine ⟨answer, last, ?_, rfl, rfl⟩
  rw [List.append_nil, List.append_nil]
  exact holds

/-- A result fails if and only if a push is blocked, because the index has answered that it is out of
date or has not answered that it is up to date, or the index has given counts that are no whole numbers
for the files of a commit or a merge, or no process can be given the command that asks for the files of a
commit, a merge or a checkout. Before a push the index is asked once, if that is to be done and there is time
for it. -/
theorem handle_fails_iff {σ : Type} (respond : (request : LookupRequest) → σ → request.Reply × σ)
    (state : σ) (config : HookConfig) (hasTools : Bool) (now : DateTime) (event : HookEvent)
    (duration : Float) (desk : HookDesk) :
    let handler : HookHandler := { config, hasTools }
    let work := (handler.handle now event duration).run desk
    let log := work.exchanges respond state
    let result := (work.run respond state).1.1
    ((∀ tool, ∀ value ∈ answers tool log, ∃ members, value = .obj members) →
      (result.success = false ↔
        (event.type = .prePush ∧ config.validateOnPush = true ∧ hasTools = true ∧
          ∃ answer, .obj answer ∈ answers "index_status" log ∧
            ∀ value, Members.get? answer "isUpToDate" = some value → value.isTruthy = false) ∨
        ((event.type = .preCommit ∨ event.type = .postMerge) ∧
          ∃ answer, .obj answer ∈ answers "index_files" log ∧ ¬ CountsFiles answer) ∨
        ∃ command reason, event.filesCommand? = some command ∧
          log = [⟨.git command, .refused reason⟩])) ∧
      ∀ seconds, event.type = .prePush → config.validateOnPush = true → hasTools = true →
        config.timeoutSeconds = .ok seconds →
          let request := .tool "index_status" (.obj [("projectId", .str (handler.project event))])
          log = [⟨request, (respond request state).1⟩] := by
  intro handler work log result
  constructor
  · have both := Program.Ensures.and (dispatch_ensures handler now event desk)
      (dispatch_refused_iff handler now event desk)
    obtain ⟨answer, last, ⟨dispatched, refused⟩, made, _⟩ :=
      (handle_ensures rfl both duration).exchanges respond state
    intro objects
    have success : result.success =
        (HookResult.ofReport event.type (answer.mapError (·.message))).success :=
      (congrArg HookResult.success made).trans rfl
    rw [success, ← refused]
    by_cases stops : ∃ refusal, answer = .error (.refused refusal)
    · obtain ⟨refusal, rfl⟩ := stops
      exact iff_of_true rfl (.inr (.inr ⟨refusal, rfl⟩))
    · obtain ⟨report, rfl, fails, counted⟩ := dispatched objects fun refusal same => stops ⟨refusal, same⟩
      have uncounted : ¬ report.Counted ↔ Miscounts event log := by rw [counted, Classical.not_not]
      rw [mapError_ok, HookResult.ofReport_fails, or_iff_left stops]
      exact or_congr fails uncounted
  · intro seconds push checked tools timely
    have dispatched : handler.dispatch now event = liftM (handler.prePush event) := by
      unfold dispatch
      rw [push]
    have asks := (prePush_asks handler checked tools timely event).lift desk
    rw [← dispatched] at asks
    obtain ⟨_, _, ⟨⟨reply, asked⟩, _⟩, _⟩ :=
      (handle_ensures rfl asks duration).exchanges respond state
    obtain rfl := Program.exchanges_head asked
    exact asked

/-- A server of tools that gives one answer to all calls, beside a git that does not answer. -/
def answering (answer : Members) : LookupSource where
  git _ := .timedOut
  tool _ _ := .ok (.obj answer)

def eventOf (type : HookType) : HookEvent :=
  { type, timestamp := default, repository := "/repos/demo", stagedFiles := some ["a.py"] }

/-- A commit is blocked because the index says how many files it has indexed in a word. -/
theorem handle_miscounted_fails :
    let work := (({} : HookHandler).handle default (eventOf .preCommit)).run {}
    let answer := answering [("filesIndexed", .str "abc")]
    (work.run answer.respond {}).1.1.success = false := by
  decide +kernel

theorem handle_fails_iff_outdated :
    let handler : HookHandler := { config := { validateOnPush := true } }
    let work := (handler.handle default (eventOf .prePush)).run {}
    let answer := answering [("isUpToDate", .bool false)]
    let log := work.exchanges answer.respond {}
    (∀ tool, ∀ value ∈ answers tool log, ∃ members, value = .obj members) ∧
      (∃ seconds, handler.config.timeoutSeconds = .ok seconds) ∧
      (work.run answer.respond {}).1.1.success = false := by
  intro handler work answer log
  obtain ⟨fails, asked⟩ := handle_fails_iff answer.respond {} { validateOnPush := true } true default
    (eventOf .prePush) 0.0 {}
  have timely : ∃ seconds, handler.config.timeoutSeconds = .ok seconds := by
    have defined : handler.config.timeoutSeconds.toOption.isSome = true := by decide +kernel
    cases seconds : handler.config.timeoutSeconds with
    | ok x => exact ⟨x, rfl⟩
    | error fault => simp [seconds, Except.toOption] at defined
  obtain ⟨seconds, defined⟩ := timely
  have log_eq : log = [⟨.tool "index_status" (.obj [("projectId", .str "demo")]),
      .ok (.obj [("isUpToDate", .bool false)])⟩] := asked seconds rfl rfl rfl defined
  have answered (tool : String) : answers tool log =
      if "index_status" = tool then [.obj [("isUpToDate", .bool false)]] else [] := by
    rw [log_eq]
    exact answers_tool ..
  have objects : ∀ tool, ∀ value ∈ answers tool log, ∃ members, value = .obj members := by
    intro tool value member
    rw [answered] at member
    split at member
    · exact ⟨_, List.mem_singleton.mp member⟩
    · exact absurd member List.not_mem_nil
  have outdated : .obj [("isUpToDate", .bool false)] ∈ answers "index_status" log := by
    rw [answered, if_pos rfl]
    exact List.mem_singleton_self _
  have said : ∀ value, Members.get? [("isUpToDate", .bool false)] "isUpToDate" = some value →
      value.isTruthy = false := by
    rintro value ⟨⟩
    rfl
  refine ⟨objects, ⟨seconds, defined⟩, ?_⟩
  unfold work handler
  exact (fails objects).mpr (.inl ⟨rfl, rfl, rfl, _, outdated, said⟩)

end HookHandler

end CodeGraph
