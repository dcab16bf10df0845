import CodeGraph.Proofs.Hooks.Failing
import CodeGraph.Proofs.Hooks.Records
import CodeGraph.Proofs.Programs

namespace CodeGraph

/-- The files that a command lists, for how it ended. -/
def Git.filesListed : GitReply → List String
  | .exited 0 out _ => Git.filledLines (Text.decodeUtf8 out)
  | _ => []

theorem Git.filesListed_of_outcome {reply : GitReply} {files : List String}
    (read : outcome filledLines [] reply = .ok files) : filesListed reply = files := by
  unfold outcome at read
  split at read
  · cases read
  · exact Except.ok.inj read
  · unfold filesListed
    split
    · simp_all
    · exact Except.ok.inj read

namespace HookHandler

/-- The files of an event are given, or else they are what git lists when it is asked for them at the start. -/
inductive FilesAre (given : Option (List String)) (arguments : List String) (log : List LookupExchange) :
    List String → Prop
  | given {files : List String} : given = some files → FilesAre given arguments log files
  | listed {reply : GitReply} : given = none → log.head? = some ⟨.git arguments, reply⟩ →
      FilesAre given arguments log (Git.filesListed reply)

/-- The files that an event is about: those staged for a commit, or those changed by a merge. -/
inductive Concerns (event : HookEvent) (log : List LookupExchange) : List String → Prop
  | staged {files : List String} : event.type = .preCommit →
      FilesAre event.stagedFiles ["diff", "--cached", "--name-only"] log files → Concerns event log files
  | merged {files : List String} : event.type = .postMerge →
      FilesAre event.mergedFiles ["diff", "--name-only", "HEAD@\x7b1\x7d", "HEAD"] log files → Concerns event log files

/-- What the index is asked for files of an event. -/
def indexRequest (handler : HookHandler) (event : HookEvent) (files : List String) : Json :=
  .obj [("projectId", .str (handler.project event)), ("filePaths", Json.strings files)]

/-- What handling an event may come to for the index: it is left alone, or it is asked once for some files, and a
commit is marked only if it answers. -/
inductive Indexes (handler : HookHandler) (event : HookEvent) (files : List String) (log : List LookupExchange)
    (first last : HookStore) : Prop
  | leaves : callsOf "index_files" log = [] → last.commits = first.commits → Indexes handler event files log first last
  | asks (reply : ToolReply) : callsOf "index_files" log = [(handler.indexRequest event files, reply)] →
      1 ≤ files.length → files.length ≤ handler.config.maxFilesToIndex →
      (∀ project commit, last.isIndexed project commit = true → first.isIndexed project commit = true ∨
        event.type = .postMerge ∧ handler.project event = project ∧ event.commit = commit ∧
          ∃ answer, reply = .ok answer) → Indexes handler event files log first last

end HookHandler

namespace HookStore

variable {store next : HookStore} {project commit : String}

theorem record_commits {execution : HookExecution} (run : store.record execution = .ok next) :
    next.commits = store.commits := by
  unfold record at run
  repeat' split at run
  all_goals cases run
  rfl

theorem isIndexed_congr (same : next.commits = store.commits) (project commit : String) :
    next.isIndexed project commit = store.isIndexed project commit := by
  rw [isIndexed, same, isIndexed]

/-- At most one commit is marked at a time. -/
theorem isIndexed_of_markIndexed {marked given : String} {fileCount : Json}
    (run : store.markIndexed marked given fileCount = .ok next) (indexed : next.isIndexed project commit = true) :
    store.isIndexed project commit = true ∨ marked = project ∧ given = commit := by
  unfold markIndexed at run
  split at run
  · cases run
  · cases column : fileCount.inColumn "indexed_commits.file_count" with
    | error failure => simp [column, bind, Except.bind] at run
    | ok count =>
      simp only [column, bind, Except.bind] at run
      split at run
      · cases run
        left
        obtain ⟨_, member, same⟩ := List.any_eq_true.mp indexed
        obtain ⟨c, stored, rfl⟩ := List.mem_map.mp member
        refine List.any_eq_true.mpr ⟨c, stored, ?_⟩
        split at same <;> exact same
      · cases run
        obtain ⟨c, member, same⟩ := List.any_eq_true.mp indexed
        rcases List.mem_append.mp member with old | new
        · exact .inl (List.any_eq_true.mpr ⟨c, old, same⟩)
        · cases List.mem_singleton.mp new
          exact .inr (by simpa using same)

end HookStore

namespace HookHandler

variable {given : Option (List String)} {arguments files : List String} {log more : List LookupExchange}
  {event : HookEvent} {handler : HookHandler} {first middle last : HookStore}

theorem FilesAre.append (are : FilesAre given arguments log files) : FilesAre given arguments (log ++ more) files := by
  cases are with
  | given same => exact .given same
  | listed none asked => exact .listed none (by rw [List.head?_append, asked]; rfl)

theorem Concerns.append (concerns : Concerns event log files) : Concerns event (log ++ more) files := by
  cases concerns with
  | staged type are => exact .staged type are.append
  | merged type are => exact .merged type are.append

theorem Indexes.prepend (indexes : Indexes handler event files log first last)
    (none : callsOf "index_files" more = []) : Indexes handler event files (more ++ log) first last := by
  have same : callsOf "index_files" (more ++ log) = callsOf "index_files" log := by
    rw [callsOf_append, none, List.nil_append]
  cases indexes with
  | leaves unasked kept => exact .leaves (same.trans unasked) kept
  | asks reply asked some few marks => exact .asks reply (same.trans asked) some few marks

theorem Indexes.append (indexes : Indexes handler event files log first middle)
    (none : callsOf "index_files" more = []) (kept : last.commits = middle.commits) :
    Indexes handler event files (log ++ more) first last := by
  have same : callsOf "index_files" (log ++ more) = callsOf "index_files" log := by
    rw [callsOf_append, none, List.append_nil]
  cases indexes with
  | leaves unasked before => exact .leaves (same.trans unasked) (kept.trans before)
  | asks reply asked some few marks =>
    refine .asks reply (same.trans asked) some few fun project commit indexed => marks project commit ?_
    rwa [HookStore.isIndexed_congr kept] at indexed

theorem knownOr_files (given : Option (List String)) (arguments : List String) :
    (knownOr given (Git.listed arguments)).run.Ensures fun log found =>
      (∀ files, found = .ok files → FilesAre given arguments log files) ∧ callsOf "index_files" log = [] := by
  cases given with
  | some files =>
    refine ⟨?_, rfl⟩
    rintro _ ⟨⟩
    exact .given rfl
  | none =>
    refine Program.Ensures.weaken (Git.listed_reads arguments) ?_
    rintro _ _ ⟨reply, rfl, rfl⟩
    refine ⟨fun files read => ?_, rfl⟩
    rw [← Git.filesListed_of_outcome read]
    exact .listed rfl rfl

/-- A tool is called once, or the call fails before. -/
theorem callTool_calls (handler : HookHandler) (name : String) (parameters : Json) :
    (handler.callTool name parameters).Ensures fun log reply =>
      callsOf name log = [] ∧ (∃ reason, reply = .error reason) ∨ callsOf name log = [(parameters, reply)] := by
  unfold callTool
  split
  · exact .inl ⟨rfl, _, rfl⟩
  · intro reply
    exact .inr (callsOf_tool name parameters reply [])

theorem index_calls (handler : HookHandler) (event : HookEvent) (files : List String) :
    (handler.index event files).Ensures fun log answer =>
      callsOf "index_files" log = [] ∧ (∃ reason, answer = .error reason) ∨
      ∃ reply, callsOf "index_files" log = [(handler.indexRequest event files, reply)] ∧
        ∀ indexed, answer = .ok indexed → ∃ value, reply = .ok value := by
  refine .bind ((callTool_calls handler "index_files" _).weaken fun log reply asked => ?_)
  cases reply with
  | error reason =>
    refine .pure ?_
    rw [List.append_nil]
    rcases asked with ⟨none, _⟩ | asked
    · exact .inl ⟨none, reason, rfl⟩
    · exact .inr ⟨_, asked, nofun⟩
  | ok value =>
    refine .pure ?_
    rw [List.append_nil]
    rcases asked with ⟨_, _, ⟨⟩⟩ | asked
    exact .inr ⟨_, asked, fun indexed made => ⟨value, rfl⟩⟩

theorem length_of_not_tooMany (few : ¬ handler.tooMany files = true) :
    (files.length : Int) ≤ handler.config.maxFilesToIndex := by
  rw [tooMany, decide_eq_true_eq] at few
  omega

theorem length_of_not_isEmpty (some : ¬ files.isEmpty = true) : 1 ≤ files.length :=
  List.length_pos_iff.mpr fun none => some (List.isEmpty_iff.mpr none)

theorem indexStaged_indexes (handler : HookHandler) (event : HookEvent) (staged : List String) (store : HookStore) :
    (handler.indexStaged event staged).Ensures fun log _ => Indexes handler event staged log store store := by
  unfold indexStaged
  dsimp only
  split
  · exact .leaves rfl rfl
  · split
    · exact .leaves rfl rfl
    · split
      · exact .leaves rfl rfl
      · rename_i some few _
        refine .bind ((index_calls handler event staged).weaken fun log answer asked => ?_)
        have whole : Indexes handler event staged (log ++ []) store store := by
          rw [List.append_nil]
          rcases asked with ⟨none, _⟩ | ⟨reply, asked, _⟩
          · exact .leaves none rfl
          · exact .asks reply asked (length_of_not_isEmpty some) (length_of_not_tooMany few) fun _ _ => .inl
        cases answer <;> exact .pure whole

theorem markMerged_marks (handler : HookHandler) (event : HookEvent) (merge : Merge) (desk : HookDesk) :
    ((handler.markMerged event merge).run desk).Ensures fun log out => log = [] ∧
      ∀ project commit, out.2.store.isIndexed project commit = true → desk.store.isIndexed project commit = true ∨
        handler.project event = project ∧ event.commit = commit := by
  unfold markMerged
  split
  · exact ⟨rfl, fun _ _ => .inl⟩
  · refine .pure ⟨rfl, fun project commit indexed => ?_⟩
    rcases HookStore.change_cases (·.markIndexed (handler.project event) event.commit merge.filesIndexed)
      desk.store with marked | same
    · exact HookStore.isIndexed_of_markIndexed marked indexed
    · exact .inl (same ▸ indexed)

theorem indexMerged_indexes (handler : HookHandler) (merged : List String) (desk : HookDesk)
    (type : event.type = .postMerge) : ((handler.indexMerged event merged).run desk).Ensures fun log out =>
      Indexes handler event merged log desk.store out.2.store := by
  unfold indexMerged
  dsimp only
  split
  · exact .leaves rfl rfl
  · split
    · exact .leaves rfl rfl
    · split
      · exact .leaves rfl rfl
      · rename_i few some _
        refine .bind (((index_calls handler event merged).lift desk).weaken ?_)
        rintro log ⟨answer, kept⟩ ⟨asked, same⟩
        obtain rfl : kept = desk := same
        -- Without an answer that can be read nothing is marked.
        have unmarked : Indexes handler event merged (log ++ []) kept.store kept.store := by
          rw [List.append_nil]
          rcases asked with ⟨none, _⟩ | ⟨reply, asked, _⟩
          · exact .leaves none rfl
          · exact .asks reply asked (length_of_not_isEmpty some) (length_of_not_tooMany few) fun _ _ => .inl
        rcases answer with reason | misshape | indexed
        · exact .pure unmarked
        · exact .pure unmarked
        · obtain ⟨_, _, ⟨⟩⟩ | ⟨reply, asked, answered⟩ := asked
          refine (markMerged_marks handler event _ _).weaken ?_
          rintro _ out ⟨rfl, marks⟩
          rw [List.append_nil]
          refine .asks reply asked (length_of_not_isEmpty some) (length_of_not_tooMany few) ?_
          intro project commit indexed
          exact (marks project commit indexed).imp_right fun same => ⟨type, same.1, same.2, answered _ rfl⟩

/-- An event has files where the index is asked for them. -/
def IndexesFiles (handler : HookHandler) (event : HookEvent) (log : List LookupExchange) (first last : HookStore) : Prop :=
  ∃ files, Indexes handler event files log first last ∧ (callsOf "index_files" log ≠ [] → Concerns event log files)

theorem IndexesFiles.leaves (none : callsOf "index_files" log = []) (kept : last.commits = first.commits) :
    IndexesFiles handler event log first last :=
  ⟨[], .leaves none kept, fun some => absurd none some⟩

/-- The files are found first, and then handed to the index. -/
theorem Indexes.after (indexes : Indexes handler event files more first last)
    (none : callsOf "index_files" log = []) (concerns : Concerns event log files) :
    IndexesFiles handler event (log ++ more) first last :=
  ⟨files, indexes.prepend none, fun _ => concerns.append⟩

theorem preCommit_indexes (handler : HookHandler) (store : HookStore) (type : event.type = .preCommit) :
    (handler.preCommit event).Ensures fun log _ => IndexesFiles handler event log store store := by
  unfold preCommit
  split
  · exact .leaves rfl rfl
  · refine .bind ((knownOr_files event.stagedFiles _).weaken ?_)
    rintro log (refusal | staged) ⟨are, unasked⟩
    · refine .pure ?_
      rw [List.append_nil]
      exact .leaves unasked rfl
    · refine .bind ((indexStaged_indexes handler event staged store).weaken fun more answer indexes => .pure ?_)
      rw [List.append_nil]
      exact indexes.after unasked (.staged type (are staged rfl))

theorem syncMerged_indexes (handler : HookHandler) (desk : HookDesk) (type : event.type = .postMerge) :
    ((handler.syncMerged event).run desk).Ensures fun log out =>
      IndexesFiles handler event log desk.store out.2.store := by
  unfold syncMerged
  split
  · exact .leaves rfl rfl
  · refine .bind (((knownOr_files event.mergedFiles _).lift desk).weaken ?_)
    rintro log ⟨refusal | merged, kept⟩ ⟨⟨are, unasked⟩, same⟩
    · refine .pure ?_
      rw [List.append_nil, same]
      exact .leaves unasked rfl
    · obtain rfl : kept = desk := same
      refine .bind ((indexMerged_indexes handler merged kept type).weaken fun more out indexes => .pure ?_)
      rw [List.append_nil]
      exact indexes.after unasked (.merged type (are merged rfl))

/-- The analysis of a merge asks other tools. -/
theorem reportMerged_uncalled (handler : HookHandler) (now : DateTime) (event : HookEvent) (merge : Merge)
    (desk : HookDesk) : ((handler.reportMerged now event merge).run desk).Ensures fun log out =>
      callsOf "index_files" log = [] ∧ out.2.store.commits = desk.store.commits := by
  have spares : Lookup.Spares "index_files" ((handler.reportMerged now event merge).run desk) :=
    (reportMerged_hears handler now event merge desk).weaken fun _ _ holds => holds.1
  refine (Program.Ensures.and spares.uncalled (reportMerged_desk handler now event merge desk)).weaken ?_
  rintro log out ⟨none, reports, printed, whole⟩
  exact ⟨none, by rw [whole]⟩

theorem IndexesFiles.append (indexes : IndexesFiles handler event log first middle)
    (none : callsOf "index_files" more = []) (kept : last.commits = middle.commits) :
    IndexesFiles handler event (log ++ more) first last := by
  obtain ⟨files, indexes, concerns⟩ := indexes
  refine ⟨files, indexes.append none kept, fun some => (concerns fun unasked => some ?_).append⟩
  rw [callsOf_append, unasked, none, List.nil_append]

theorem postMerge_indexes (handler : HookHandler) (now : DateTime) (desk : HookDesk)
    (type : event.type = .postMerge) : ((handler.postMerge now event).run desk).Ensures fun log out =>
      IndexesFiles handler event log desk.store out.2.store := by
  unfold postMerge
  refine .bind ((syncMerged_indexes handler desk type).weaken ?_)
  rintro log ⟨refusal | merge, next⟩ indexes
  · refine .pure ?_
    rw [List.append_nil]
    exact indexes
  · refine .bind ((reportMerged_uncalled handler now event merge next).weaken ?_)
    rintro more ⟨last, final⟩ ⟨none, kept⟩
    refine .pure ?_
    rw [List.append_nil]
    exact indexes.append none kept

theorem callTool_spares {name called : String} (other : name ≠ called) (handler : HookHandler) (parameters : Json) :
    Lookup.Spares called (handler.callTool name parameters) := by
  unfold callTool
  split
  · exact .pure _
  · exact .tool other _

theorem prePush_spares (handler : HookHandler) (event : HookEvent) :
    Lookup.Spares "index_files" (handler.prePush event) := by
  unfold prePush
  split
  · exact .pure _
  · split
    · exact .pure _
    · refine (callTool_spares (by decide) handler _).bind fun reply => ?_
      cases reply <;> exact .pure _

theorem postCheckout_spares (event : HookEvent) : Lookup.Spares "index_files" (postCheckout event).run := by
  unfold postCheckout
  split
  · exact Lookup.Spares.pure _
  · exact (Git.changes_reads _).spares.bind_ok fun changed => Lookup.Spares.pure _

theorem dispatch_indexes (handler : HookHandler) (now : DateTime) (event : HookEvent) (desk : HookDesk) :
    ((handler.dispatch now event).run desk).Ensures fun log out =>
      IndexesFiles handler event log desk.store out.2.store := by
  have spared {α : Type} {program : Lookup α} (spares : Lookup.Spares "index_files" program) :
      ((liftM program : HookWork α).run desk).Ensures fun log out =>
        IndexesFiles handler event log desk.store out.2.store := by
    refine (spares.uncalled.lift desk).weaken fun log out ⟨unasked, same⟩ => ?_
    exact same ▸ .leaves unasked rfl
  unfold dispatch
  split
  · rename_i type
    refine ((preCommit_indexes handler desk.store type).lift desk).weaken fun log out ⟨indexes, same⟩ => ?_
    exact same ▸ indexes
  · rename_i type
    exact postMerge_indexes handler now desk type
  · exact spared (prePush_spares handler event)
  · exact spared ((postCheckout_spares event).adapt _)

theorem recorded_commits (handler : HookHandler) (event : HookEvent) (result : HookResult) (desk : HookDesk) :
    (handler.recorded event result desk).store.commits = desk.store.commits := by
  rcases HookStore.change_cases (·.record (HookExecution.ofResult desk.store.nextId (handler.project event) event result))
    desk.store with kept | same
  · exact HookStore.record_commits kept
  · exact congrArg (·.commits) same

theorem handle_indexes (handler : HookHandler) (now : DateTime) (event : HookEvent) (duration : Float)
    (desk : HookDesk) : ((handler.handle now event duration).run desk).Ensures fun log out =>
      IndexesFiles handler event log desk.store out.2.store := by
  have reports : ((handler.report now event).run desk).Ensures fun log out =>
      IndexesFiles handler event log desk.store out.2.store := by
    unfold report
    split
    · exact .leaves rfl rfl
    · refine .bind ((dispatch_indexes handler now event desk).weaken fun log out indexes => .pure ?_)
      rw [List.append_nil]
      exact indexes
  unfold handle
  refine .bind (reports.weaken ?_)
  rintro log ⟨answer, next⟩ indexes
  exact indexes.append rfl (recorded_commits handler event _ next)

/-- The index is asked at most once for an event, and then for all of its files, if they are not too many. -/
def AsksOnce (call : Call) (log : List LookupExchange) : Prop :=
  (callsOf "index_files" log).length ≤ 1 ∧ ∀ asked ∈ callsOf "index_files" log, ∃ files, Concerns call.event log files ∧
    1 ≤ files.length ∧ files.length ≤ call.handler.config.maxFilesToIndex ∧
    asked.1 = call.handler.indexRequest call.event files

/-- The index has answered for all files of the merge that led to a commit. -/
def Synced (project commit : String) (call : Call) (log : List LookupExchange) : Prop :=
  call.event.type = .postMerge ∧ call.handler.project call.event = project ∧ call.event.commit = commit ∧
    ∃ files answer, Concerns call.event log files ∧
      (call.handler.indexRequest call.event files, .ok answer) ∈ callsOf "index_files" log

theorem IndexesFiles.asksOnce {call : Call} (indexes : IndexesFiles call.handler call.event log first last) :
    AsksOnce call log := by
  obtain ⟨files, unasked | ⟨reply, asked, some, few, -⟩, concerns⟩ := indexes
  · rw [AsksOnce, unasked]
    exact ⟨Nat.zero_le _, nofun⟩
  · have among := concerns (by rw [asked]; exact List.cons_ne_nil _ _)
    rw [AsksOnce, asked]
    exact ⟨le_rfl, List.forall_mem_singleton.mpr ⟨files, among, some, few, rfl⟩⟩

theorem IndexesFiles.synced {call : Call} {project commit : String}
    (indexes : IndexesFiles call.handler call.event log first last) (marked : last.isIndexed project commit = true) :
    first.isIndexed project commit = true ∨ Synced project commit call log := by
  obtain ⟨files, ⟨-, kept⟩ | ⟨reply, asked, -, -, marks⟩, concerns⟩ := indexes
  · rw [HookStore.isIndexed_congr kept] at marked
    exact .inl marked
  · refine (marks project commit marked).imp_right ?_
    rintro ⟨type, sameProject, sameCommit, answer, rfl⟩
    have among := concerns (by rw [asked]; exact List.cons_ne_nil _ _)
    exact ⟨type, sameProject, sameCommit, files, answer, among, by rw [asked]; exact List.mem_singleton_self _⟩

section

variable {σ : Type} (respond : (request : LookupRequest) → σ → request.Reply × σ)

/-- What is looked up for each of events that are handled one after another. -/
def logs : List Call → HookDesk → σ → List (List LookupExchange)
  | [], _, _ => []
  | call :: rest, desk, state =>
    let work := (call.handler.handle call.now call.event call.duration).run desk
    work.exchanges respond state :: logs rest (work.run respond state).1.2 (work.run respond state).2

/-- Whatever events are handled one after another, and whatever git and the tools answer: the index is asked at most
once for each event, for all of its files, at least one and no more than are indexed at once. A commit that is marked as
indexed in the end was marked before, or the index has answered for all the files of a merge that led to it. -/
theorem handleAll_indexes (calls : List Call) (desk : HookDesk) (state : σ) :
    (logs respond calls desk state).length = calls.length ∧
    ((handleAll calls).run desk).exchanges respond state = (logs respond calls desk state).flatten ∧
    (∀ made ∈ calls.zip (logs respond calls desk state), AsksOnce made.1 made.2) ∧
    ∀ project commit, (((handleAll calls).run desk).run respond state).1.2.store.isIndexed project commit = true →
      desk.store.isIndexed project commit = true ∨
        ∃ made ∈ calls.zip (logs respond calls desk state), Synced project commit made.1 made.2 := by
  induction calls generalizing desk state with
  | nil => exact ⟨rfl, rfl, fun _ none => absurd none List.not_mem_nil, fun _ _ marked => .inl marked⟩
  | cons call rest ih =>
    have one := (handle_indexes call.handler call.now call.event call.duration desk).exchanges respond state
    have goesOn : (handleAll (call :: rest)).run desk =
        ((call.handler.handle call.now call.event call.duration).run desk).bind fun out =>
          ((handleAll rest).run out.2).bind fun last => .done (out.1 :: last.1, last.2) := rfl
    rw [goesOn, Program.exchanges_bind, Program.exchanges_bind, Program.run_bind, Program.run_bind, logs]
    obtain ⟨length, whole, asks, marks⟩ := ih
      (((call.handler.handle call.now call.event call.duration).run desk).run respond state).1.2
      (((call.handler.handle call.now call.event call.duration).run desk).run respond state).2
    rw [List.zip_cons_cons, List.flatten_cons, ← whole]
    refine ⟨congrArg (· + 1) length, congrArg (_ ++ ·) (List.append_nil _), ?_, fun project commit marked => ?_⟩
    · exact List.forall_mem_cons.mpr ⟨one.asksOnce, asks⟩
    · rcases marks project commit marked with before | ⟨made, later, synced⟩
      · exact (one.synced before).imp_right fun synced => ⟨_, List.mem_cons_self, synced⟩
      · exact .inr ⟨made, List.mem_cons_of_mem _ later, synced⟩

end

/-- A server that can index one file only. -/
def indexingOne : LookupSource where
  git _ := .exited 0 "a.py\n".toUTF8.toList []
  tool
    | _, .obj [_, (_, .arr [_])] => .ok (.obj [("filesIndexed", .int 1)])
    | _, _ => .error "busy"

/-- A merge of files that are known, or that git has to be asked for. -/
def mergeCall (commit : String) (mergedFiles : Option (List String)) : Call where
  handler := { config := { generateImpactReport := false } }
  now := default
  event := { type := .postMerge, timestamp := default, repository := "/repos/demo", commit, mergedFiles }

/-- The commit whose files were indexed is marked, and the one whose files were not is not. -/
theorem handleAll_indexes_merges :
    let calls := [mergeCall "c1" (some ["a.py", "b.py"]), mergeCall "c2" none]
    let store := (((handleAll calls).run {}).run indexingOne.respond {}).1.2.store
    store.isIndexed "demo" "c1" = false ∧ store.isIndexed "demo" "c2" = true ∧
      ∃ made ∈ calls.zip (logs indexingOne.respond calls {} {}), Synced "demo" "c2" made.1 made.2 := by
  intro calls store
  have marked : store.isIndexed "demo" "c2" = true := by decide +kernel
  obtain ⟨_, _, _, marks⟩ := handleAll_indexes indexingOne.respond calls {} {}
  exact ⟨by decide +kernel, marked, (marks "demo" "c2" marked).resolve_left Bool.false_ne_true⟩

end HookHandler

end CodeGraph
