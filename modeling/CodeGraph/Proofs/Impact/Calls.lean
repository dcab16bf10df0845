import CodeGraph.Impact.Analysis
import CodeGraph.Proofs.Exchanges
import CodeGraph.Proofs.Git.Commands

namespace CodeGraph

/-- A lookup with its reply. -/
abbrev LookupExchange : Type := (request : LookupRequest) × request.Reply

/-- What a tool has answered, whenever it did not fail. -/
def answers (tool : String) (log : List LookupExchange) : List Json :=
  log.filterMap fun
    | ⟨.tool name _, .ok value⟩ => if name = tool then some value else none
    | _ => none

theorem answers_append (tool : String) (log more : List LookupExchange) :
    answers tool (log ++ more) = answers tool log ++ answers tool more :=
  List.filterMap_append

theorem answers_tool (name called : String) (parameters value : Json) :
    answers called [⟨.tool name parameters, .ok value⟩] = if name = called then [value] else [] := by
  by_cases same : name = called <;> simp [answers, same]

/-- What a tool was asked, with its replies. -/
def callsOf (tool : String) (log : List LookupExchange) : List (Json × ToolReply) :=
  log.filterMap fun
    | ⟨.tool name parameters, reply⟩ => if name = tool then some (parameters, reply) else none
    | _ => none

theorem callsOf_append (tool : String) (log more : List LookupExchange) :
    callsOf tool (log ++ more) = callsOf tool log ++ callsOf tool more :=
  List.filterMap_append

@[simp] theorem callsOf_tool (tool : String) (parameters : Json) (reply : ToolReply) (log : List LookupExchange) :
    callsOf tool (⟨.tool tool parameters, reply⟩ :: log) = (parameters, reply) :: callsOf tool log :=
  List.filterMap_cons_some (if_pos rfl)

@[simp] theorem callsOf_other {name tool : String} (other : name ≠ tool) (parameters : Json) (reply : ToolReply)
    (log : List LookupExchange) : callsOf tool (⟨.tool name parameters, reply⟩ :: log) = callsOf tool log :=
  List.filterMap_cons_none (if_neg other)

/-- Whatever is looked up, what a tool has answered and the result are as wanted. -/
def Lookup.Hears {α : Type} (called : String) (program : Lookup α) (wanted : List Json → α → Prop) :
    Prop :=
  program.Ensures fun log a => wanted (answers called log) a

namespace Lookup.Hears

variable {α β : Type} {called : String}

theorem pure {a : α} {wanted : List Json → α → Prop} (holds : wanted [] a) :
    Lookup.Hears called (Pure.pure a) wanted :=
  holds

theorem weaken {wanted weaker : List Json → α → Prop} {program : Lookup α}
    (hears : Lookup.Hears called program wanted) (implies : ∀ found a, wanted found a → weaker found a) :
    Lookup.Hears called program weaker :=
  Program.Ensures.weaken hears fun _ => implies _

theorem bind {middle : List Json → α → Prop} {wanted : List Json → β → Prop} {program : Lookup α}
    {f : α → Lookup β} (hears : Lookup.Hears called program middle)
    (after : ∀ found a, middle found a →
      Lookup.Hears called (f a) fun more b => wanted (found ++ more) b) :
    Lookup.Hears called (program >>= f) wanted := by
  refine Program.Ensures.bind (Program.Ensures.weaken hears fun log a holds => ?_)
  refine Program.Ensures.weaken (after _ a holds) fun more b later => ?_
  rw [answers_append]
  exact later

theorem lift {σ : Type} {wanted : List Json → α → Prop} {program : Lookup α}
    (hears : Lookup.Hears called program wanted) (state : σ) :
    Lookup.Hears called ((liftM program : StateT σ Lookup α).run state) fun found out =>
      wanted found out.1 ∧ out.2 = state :=
  Program.Ensures.lift hears state

theorem adapt {ε ε' : Type} {wanted : List Json → Except ε' α → Prop} {program : ExceptT ε Lookup α} {f : ε → ε'}
    (hears : Lookup.Hears called program.run fun found result => wanted found (result.mapError f)) :
    Lookup.Hears called (program.adapt f).run wanted :=
  Program.Ensures.adapt hears

theorem tool (name : String) (parameters : Json) :
    Lookup.Hears name (Lookup.tool name parameters) fun found reply => found = reply.toOption.toList := by
  intro reply
  cases reply with
  | error reason => rfl
  | ok value => exact (answers_tool name name parameters value).trans (if_pos rfl)

end Lookup.Hears

/-- Whatever is looked up, a tool gives no answer to it. -/
def Lookup.Spares {α : Type} (called : String) (program : Lookup α) : Prop :=
  Lookup.Hears called program fun found _ => found = []

namespace Lookup.Spares

variable {α β : Type} {called : String}

theorem pure (a : α) : Lookup.Spares called (Pure.pure a) :=
  rfl

theorem bind {program : Lookup α} {f : α → Lookup β} (spares : Lookup.Spares called program)
    (after : ∀ a, Lookup.Spares called (f a)) : Lookup.Spares called (program >>= f) := by
  refine Lookup.Hears.bind spares ?_
  rintro _ a rfl
  exact after a

/-- What follows is left out where the program breaks off. -/
theorem bind_ok {ε : Type} {program : ExceptT ε Lookup α} {f : α → ExceptT ε Lookup β}
    (spares : Lookup.Spares called program.run) (after : ∀ a, Lookup.Spares called (f a).run) :
    Lookup.Spares called (program >>= f).run := by
  refine Lookup.Spares.bind spares fun result => ?_
  cases result with
  | ok a => exact after a
  | error failure => exact Lookup.Spares.pure _

theorem adapt {ε ε' : Type} {program : ExceptT ε Lookup α} (spares : Lookup.Spares called program.run)
    (f : ε → ε') : Lookup.Spares called (program.adapt f).run :=
  spares.bind fun _ => .pure _

theorem tool {name : String} (other : name ≠ called) (parameters : Json) :
    Lookup.Spares called (Lookup.tool name parameters) := by
  intro reply
  cases reply with
  | error reason => rfl
  | ok value => exact (answers_tool name called parameters value).trans (if_neg other)

/-- A tool that gives no answer whatever the replies are is not asked at all. -/
theorem uncalled {program : Lookup α} (spares : Lookup.Spares called program) :
    program.Ensures fun log _ => callsOf called log = [] := by
  induction program with
  | done a => rfl
  | ask request next ih =>
    intro reply
    cases request with
    | git arguments => exact ih reply (spares reply)
    | tool name parameters =>
      by_cases same : name = called
      · -- The tool could have answered, and that would be in the log of some run.
        subst same
        have heard := Program.Ensures.exchanges (spares (.ok .null)) (⟨fun _ => .timedOut, fun _ _ => .ok .null⟩ :
          LookupSource).respond {}
        simp [answers] at heard
      · refine (ih reply ((spares reply).weaken fun log a heard => ?_)).weaken fun log a asked => ?_
        · cases reply with
          | error reason => exact heard
          | ok value => exact (List.append_eq_nil_iff.mp ((answers_append called [_] log).symm.trans heard)).2
        · exact (callsOf_other same _ _ _).trans asked

end Lookup.Spares

namespace Git

variable {called : String}

theorem Reads.spares {α : Type} {program : Command α} {arguments : List String} {read : String → α} {otherwise : α}
    (reads : Reads program arguments read otherwise) : Lookup.Spares called program.run := by
  refine Program.Ensures.weaken reads ?_
  rintro _ _ ⟨reply, rfl, -⟩
  rfl

end Git

namespace Impact

variable {called : String}

/-- An analysis that leaves a tool alone. -/
def Analysis.Spares {α : Type} (called : String) (analysis : Analysis α) : Prop :=
  Lookup.Spares called analysis.run

namespace Analysis.Spares

variable {α β : Type}

theorem pure (a : α) : Analysis.Spares called (Pure.pure a) :=
  rfl

theorem lift (answer : Except Misshape α) : Analysis.Spares called (liftM answer) :=
  rfl

theorem bind {analysis : Analysis α} {f : α → Analysis β} (spares : Analysis.Spares called analysis)
    (after : ∀ a, Analysis.Spares called (f a)) : Analysis.Spares called (analysis >>= f) :=
  Lookup.Spares.bind_ok spares after

theorem call {name : String} (other : name ≠ called) (parameters : Members) :
    Analysis.Spares called (Analysis.call name parameters) :=
  (Lookup.Spares.tool other _).bind fun _ => .pure _

theorem checked (schema : Schema α) (members : Members) :
    Analysis.Spares called (Analysis.checked schema members) := by
  unfold Analysis.checked
  split
  · exact .pure _
  · exact Lookup.Spares.pure _

end Analysis.Spares

theorem usageCount_spares (other : "entity_references" ≠ called) (project : String) (id : Json) :
    Analysis.Spares called (usageCount project id) := by
  refine (Analysis.Spares.call other _).bind fun reply => ?_
  cases reply with
  | error reason => exact .pure 0
  | ok answer => exact (Analysis.Spares.lift _).bind fun references => .lift _

theorem entitiesOf_spares (other : "entity_references" ≠ called) (project filePath : String)
    (change : ChangeType) (items : List Json) :
    Analysis.Spares called (entitiesOf project filePath change items) := by
  induction items with
  | nil => exact .pure []
  | cons item rest ih =>
    refine (Analysis.Spares.lift (member item "id")).bind fun id => ?_
    split
    · exact ih
    · refine (Analysis.Spares.lift (member item "name")).bind fun name => ?_
      refine (Analysis.Spares.lift (member item "type")).bind fun type => ?_
      refine (Analysis.Spares.lift (member item "filePath")).bind fun path => ?_
      refine (usageCount_spares other project id).bind fun usages => ?_
      exact (Analysis.Spares.checked _ _).bind fun entity => ih.bind fun entities => .pure _

theorem entitiesOfFiles_spares (search : "entity_search" ≠ called)
    (references : "entity_references" ≠ called) (project : String) (deleted files : List String) :
    Analysis.Spares called (entitiesOfFiles project deleted files) := by
  induction files with
  | nil => exact .pure _
  | cons file rest ih =>
    refine (Analysis.Spares.call search _).bind fun reply => ?_
    cases reply with
    | error reason => exact ih.bind fun found => .pure _
    | ok answer =>
      refine (Analysis.Spares.lift (member answer "entities")).bind fun entities => ?_
      refine (Analysis.Spares.lift (itemsOf entities)).bind fun items => ?_
      refine (entitiesOf_spares references project file _ items).bind fun found => ?_
      exact ih.bind fun more => .pure _

theorem affectedEntities_spares (search : "entity_search" ≠ called)
    (references : "entity_references" ≠ called) (now : DateTime) (hasTools : Bool) (project : String)
    (files : ChangedFiles) : Analysis.Spares called (affectedEntities now hasTools project files) := by
  unfold affectedEntities
  split
  · exact .pure _
  · exact (entitiesOfFiles_spares search references project _ _).bind fun found => .pure _

theorem decisionsOf_spares (files : ChangedFiles) (seen : List String) (items : List Json) :
    Analysis.Spares called (decisionsOf files seen items) := by
  induction items generalizing seen with
  | nil => exact .pure []
  | cons item rest ih =>
    refine (Analysis.Spares.lift (member item "id")).bind fun id => ?_
    refine (Analysis.Spares.lift (member item "decision")).bind fun decision => ?_
    dsimp only
    split
    · exact ih seen
    · refine (Analysis.Spares.lift (isSeen seen id)).bind fun known => ?_
      split
      · exact ih seen
      · refine (Analysis.Spares.lift (mentioned? _ files.all)).bind fun mentioned => ?_
        cases mentioned with
        | none => exact ih seen
        | some file =>
          refine (Analysis.Spares.lift (summaryOf _)).bind fun summary => ?_
          exact (Analysis.Spares.checked _ _).bind fun found => (ih _).bind fun more => .pure _

theorem decisionsForNames_spares (other : "decision_search" ≠ called) (project : String)
    (files : ChangedFiles) (seen names : List String) :
    Analysis.Spares called (decisionsForNames project files seen names) := by
  induction names generalizing seen with
  | nil => exact .pure _
  | cons name rest ih =>
    refine (Analysis.Spares.call other _).bind fun reply => ?_
    cases reply with
    | error reason => exact (ih seen).bind fun found => .pure _
    | ok answer =>
      refine (Analysis.Spares.lift (member answer "decisions")).bind fun decisions => ?_
      refine (Analysis.Spares.lift (itemsOf decisions)).bind fun items => ?_
      refine (decisionsOf_spares files seen items).bind fun found => ?_
      exact (ih _).bind fun more => .pure _

theorem affectedDecisions_spares (other : "decision_search" ≠ called) (now : DateTime)
    (hasTools : Bool) (project : String) (files : ChangedFiles) :
    Analysis.Spares called (affectedDecisions now hasTools project files) := by
  unfold affectedDecisions
  split
  · exact .pure _
  · exact (decisionsForNames_spares other project files [] _).bind fun found => .pure _

theorem contextsOf_spares (items : List Json) : Analysis.Spares called (contextsOf items) := by
  induction items with
  | nil => exact .pure []
  | cons item rest ih =>
    refine (Analysis.Spares.lift (member item "filePath")).bind fun path => ?_
    refine (Analysis.Spares.lift (member item "name")).bind fun name => ?_
    refine (Analysis.Spares.lift (member item "summary")).bind fun summary => ?_
    refine (Analysis.Spares.lift (member item "relevanceScore")).bind fun score => ?_
    exact (Analysis.Spares.checked _ _).bind fun context => ih.bind fun more => .pure _

theorem relatedContexts_spares (other : "context_query" ≠ called) (now : DateTime) (hasTools : Bool)
    (project : String) (files : ChangedFiles) :
    Analysis.Spares called (relatedContexts now hasTools project files) := by
  unfold relatedContexts
  dsimp only
  split
  · exact .pure _
  · refine (Analysis.Spares.call other _).bind fun reply => ?_
    cases reply with
    | error reason => exact .pure _
    | ok answer =>
      refine (Analysis.Spares.lift (member answer "items")).bind fun items => ?_
      refine (Analysis.Spares.lift (firstOf _ items)).bind fun first => ?_
      exact (contextsOf_spares first).bind fun contexts => .pure _

theorem changedFiles_spares (range : Range) : Lookup.Spares called range.changedFiles.run := by
  unfold Range.changedFiles
  split <;> exact (Git.changes_reads _).spares

theorem Analysis.Spares.lookup {α : Type} {program : Lookup α} (spares : Lookup.Spares called program) :
    Analysis.Spares called (ExceptT.lift program) :=
  spares.bind fun _ => .pure _

/-- The tools that an analysis calls. -/
def analysisTools : List String :=
  ["entity_search", "entity_references", "decision_search", "context_query"]

theorem analyzeFiles_spares (unused : called ∉ analysisTools) (now : DateTime) (hasTools : Bool)
    (range : Range) (files : ChangedFiles) :
    Analysis.Spares called (analyzeFiles now hasTools range files) := by
  have other (name : String) (used : name ∈ analysisTools) : name ≠ called :=
    fun same => unused (same ▸ used)
  refine (Analysis.Spares.lookup (affectedEntities_spares (other _ (by decide)) (other _ (by decide))
    now hasTools _ files)).bind fun entities => ?_
  refine (Analysis.Spares.lookup (affectedDecisions_spares (other _ (by decide)) now hasTools _
    files)).bind fun decisions => ?_
  refine (Analysis.Spares.lookup (relatedContexts_spares (other _ (by decide)) now hasTools _
    files)).bind fun contexts => ?_
  refine (Analysis.Spares.lift entities).bind fun entities => ?_
  refine (Analysis.Spares.lift decisions).bind fun decisions => ?_
  exact (Analysis.Spares.lift contexts).bind fun contexts => .pure _

theorem analyze_spares (unused : called ∉ analysisTools) (now : DateTime) (hasTools : Bool)
    (range : Range) : Lookup.Spares called (analyze now hasTools range).run :=
  Lookup.Spares.bind_ok ((changedFiles_spares range).adapt Fault.refused) fun files =>
    Lookup.Spares.adapt (analyzeFiles_spares unused now hasTools range files) Fault.misshapen

end Impact

end CodeGraph
