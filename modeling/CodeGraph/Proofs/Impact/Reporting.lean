import CodeGraph.Proofs.Impact.Decisions
import CodeGraph.Proofs.Programs

namespace CodeGraph

namespace Impact

/-- All that the tools answer to an analysis of changed files is of the right shape. -/
structure AnswersFit (files : ChangedFiles) (log : List LookupExchange) : Prop where
  entities : ∀ answer ∈ answers "entity_search" log, ListsEntities answer
  references : ∀ answer ∈ answers "entity_references" log, CountsReferences answer
  decisions : ListDecisions files [] (answers "decision_search" log)
  contexts : ∀ answer ∈ answers "context_query" log, ListsContexts answer

theorem answersFit_iff {files : ChangedFiles} {log : List LookupExchange} : AnswersFit files log ↔
    (∀ answer ∈ answers "entity_search" log, ListsEntities answer) ∧
    (∀ answer ∈ answers "entity_references" log, CountsReferences answer) ∧
    ListDecisions files [] (answers "decision_search" log) ∧
    ∀ answer ∈ answers "context_query" log, ListsContexts answer :=
  ⟨fun ⟨entities, references, decisions, contexts⟩ => ⟨entities, references, decisions, contexts⟩,
    fun ⟨entities, references, decisions, contexts⟩ => ⟨entities, references, decisions, contexts⟩⟩

/-- The report on what three lookups gave, if none of them broke off. -/
def joined (now : DateTime) (range : Range) (files : ChangedFiles)
    (entities : Except Misshape (Outcome (List AffectedEntity)))
    (decisions : Except Misshape (Outcome (List AffectedDecision)))
    (contexts : Except Misshape (Outcome (List RelatedContext))) : Except Misshape ImpactReport := do
  let entities ← entities
  let decisions ← decisions
  let contexts ← contexts
  return report now range files (entities.data.getD []) (decisions.data.getD [])
    (contexts.data.getD []) (entities.messages ++ decisions.messages ++ contexts.messages)

theorem joined_ok_iff {now : DateTime} {range : Range} {files : ChangedFiles}
    {entities : Except Misshape (Outcome (List AffectedEntity))}
    {decisions : Except Misshape (Outcome (List AffectedDecision))}
    {contexts : Except Misshape (Outcome (List RelatedContext))} :
    (∃ report, joined now range files entities decisions contexts = .ok report) ↔
      (∃ found, entities = .ok found) ∧ (∃ found, decisions = .ok found) ∧
        ∃ found, contexts = .ok found := by
  cases entities <;> cases decisions <;> cases contexts <;>
    simp [joined, bind, Except.bind, pure, Except.pure]

theorem joined_files {now : DateTime} {range : Range} {files : ChangedFiles}
    {entities : Except Misshape (Outcome (List AffectedEntity))}
    {decisions : Except Misshape (Outcome (List AffectedDecision))}
    {contexts : Except Misshape (Outcome (List RelatedContext))} {report : ImpactReport}
    (reported : joined now range files entities decisions contexts = .ok report) :
    report.files = files := by
  obtain ⟨⟨found, rfl⟩, ⟨decided, rfl⟩, ⟨related, rfl⟩⟩ := joined_ok_iff.mp ⟨report, reported⟩
  cases reported
  rfl

theorem analyzeFiles_run (now : DateTime) (hasTools : Bool) (range : Range) (files : ChangedFiles) :
    (analyzeFiles now hasTools range files).run =
      (affectedEntities now hasTools range.project files).run.bind fun entities =>
        (affectedDecisions now hasTools range.project files).run.bind fun decisions =>
          (relatedContexts now hasTools range.project files).run.bind fun contexts =>
            .done (joined now range files entities decisions contexts) := by
  have ending (entities : Except Misshape (Outcome (List AffectedEntity)))
      (decisions : Except Misshape (Outcome (List AffectedDecision)))
      (contexts : Except Misshape (Outcome (List RelatedContext))) :
      (liftM (joined now range files entities decisions contexts) : Analysis ImpactReport) = (do
        let entities ← entities
        let decisions ← decisions
        let contexts ← contexts
        return report now range files (entities.data.getD []) (decisions.data.getD [])
          (contexts.data.getD []) (entities.messages ++ decisions.messages ++ contexts.messages)) := by
    cases entities <;> cases decisions <;> cases contexts <;> rfl
  unfold analyzeFiles
  simp only [Analysis.run_lift_bind, ← ending]
  rfl

/-- The lookups of the three parts fit together, for each calls tools that the others leave alone. -/
theorem analyzeFiles_ensures (now : DateTime) (hasTools : Bool) (range : Range) (files : ChangedFiles) :
    (analyzeFiles now hasTools range files).run.Ensures fun log result =>
      ((∃ report, result = .ok report) ↔ AnswersFit files log) ∧
        ∀ report, result = .ok report → report.files = files := by
  have entities := Analysis.ensures_spared ["decision_search", "context_query"]
    (affectedEntities_settles now hasTools range.project files) fun called member =>
      affectedEntities_spares (by rintro rfl; simp at member) (by rintro rfl; simp at member) ..
  have decisions := Analysis.ensures_spared ["entity_search", "entity_references", "context_query"]
    (affectedDecisions_settles now hasTools range.project files) fun called member =>
      affectedDecisions_spares (by rintro rfl; simp at member) ..
  have contexts := Analysis.ensures_spared ["entity_search", "entity_references", "decision_search"]
    (relatedContexts_settles now hasTools range.project files) fun called member =>
      relatedContexts_spares (by rintro rfl; simp at member) ..
  rw [analyzeFiles_run]
  refine Program.Ensures.bind (entities.weaken fun first found ⟨fitsFirst, spared⟩ => ?_)
  refine Program.Ensures.bind (decisions.weaken fun second decided ⟨fitsSecond, spared'⟩ => ?_)
  refine Program.Ensures.bind (contexts.weaken fun third related ⟨fitsThird, spared''⟩ => ?_)
  refine .pure ⟨?_, fun report => joined_files⟩
  rw [joined_ok_iff, fitsFirst, fitsSecond, fitsThird]
  simp only [List.forall_mem_cons] at spared spared' spared''
  simp only [answersFit_iff, EntitiesFit, ReferencesFit, ContextsFit, answers_append, spared, spared',
    spared'', List.append_nil, List.nil_append, and_assoc]

/-- The command that tells which files have changed. -/
def Range.command (range : Range) : List String :=
  match range.commits? with
  | some (previous, current) => ["diff", "--name-status", previous, current]
  | none => ["diff", "--name-status", s!"{range.baseBranch}...{range.targetBranch}"]

/-- The files that a comparison shows, by how it ended. -/
def shownFiles : GitReply → ChangedFiles
  | .exited 0 out _ => .ofNameStatus (Text.decodeUtf8 out)
  | _ => {}

theorem changedFiles_reads (range : Range) :
    Git.Reads range.changedFiles range.command ChangedFiles.ofNameStatus {} := by
  unfold Range.changedFiles Range.command
  cases range.commits? <;> exact Git.changes_reads _

theorem outcome_shownFiles {reply : GitReply} (asked : ∀ reason, reply ≠ .refused reason) :
    Git.outcome ChangedFiles.ofNameStatus {} reply = .ok (shownFiles reply) := by
  unfold Git.outcome shownFiles
  split
  · exact absurd rfl (asked _)
  · rfl
  · split
    · simp_all
    · rfl

/-- What is looked up first is which files have changed. -/
theorem analyze_ensures (now : DateTime) (hasTools : Bool) (range : Range) :
    (analyze now hasTools range).run.Ensures fun log result =>
      ∃ reply more, log = ⟨.git range.command, reply⟩ :: more ∧
        ((∃ report, result = .ok report) ↔
          (∀ reason, reply ≠ .refused reason) ∧ AnswersFit (shownFiles reply) log) ∧
        ∀ report, result = .ok report → report.files = shownFiles reply := by
  refine Program.Ensures.adapt_bind (Program.Ensures.weaken (changedFiles_reads range) ?_)
  rintro _ _ ⟨reply, rfl, rfl⟩
  by_cases asked : ∀ reason, reply ≠ .refused reason
  · rw [outcome_shownFiles asked]
    refine Program.Ensures.adapt ((analyzeFiles_ensures now hasTools range (shownFiles reply)).weaken ?_)
    rintro log result ⟨settled, files⟩
    have same : AnswersFit (shownFiles reply) (⟨.git range.command, reply⟩ :: log) ↔
        AnswersFit (shownFiles reply) log := by
      simp only [answersFit_iff]
      exact Iff.rfl
    simp only [mapError_eq_ok_iff]
    refine ⟨reply, log, rfl, ?_, files⟩
    rw [List.singleton_append, same, settled]
    exact (and_iff_right asked).symm
  · obtain ⟨reason, rfl⟩ : ∃ reason, reply = .refused reason := by simpa using asked
    exact ⟨_, [], rfl, iff_of_false nofun fun fits => asked fits.1, nofun⟩

/-- An analysis gives a report if and only if a process can be given the command that compares and the answers
that tools give are of the right shapes, whether tools or git fail or not. It then reports on the files that have
changed. -/
theorem analyze_reports_iff {σ : Type}
    (respond : (request : LookupRequest) → σ → request.Reply × σ) (state : σ) (now : DateTime)
    (hasTools : Bool) (range : Range) :
    let reply := (respond (.git range.command) state).1
    let work := (analyze now hasTools range).run
    ((∃ report, (work.run respond state).1 = .ok report) ↔
      (∀ reason, reply ≠ .refused reason) ∧ AnswersFit (shownFiles reply) (work.exchanges respond state)) ∧
    ∀ report, (work.run respond state).1 = .ok report → report.files = shownFiles reply := by
  obtain ⟨reply, more, log, reports⟩ := (analyze_ensures now hasTools range).exchanges respond state
  obtain rfl := Program.exchanges_head log
  exact reports

/-- A server whose search for entities lists a text in place of an object. -/
def listingText : LookupSource where
  git _ := .exited 0 [77, 9, 97, 46, 112, 121, 10] []
  tool name _ := .ok (.obj (if name = "entity_search" then [("entities", .arr [.str "x"])] else []))

/-- One text in the list of entities breaks off the analysis of a change of one file. -/
theorem analyze_listed_text_breaks :
    let range : Range := { project := "proj", baseBranch := "main", targetBranch := "HEAD" }
    shownFiles (listingText.git range.command) = { modified := ["a.py"] } ∧
      ((analyze default true range).run.run listingText.respond {}).1 =
        .error (.misshapen (.noMembers "str")) := by
  constructor
  · decide +kernel
  · rfl

end Impact

end CodeGraph
