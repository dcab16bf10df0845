import CodeGraph.Hooks.Handling
import CodeGraph.Proofs.Impact.Calls

namespace CodeGraph

/-- The command that tells which files are staged. -/
def stagedCommand : List String :=
  ["diff", "--cached", "--name-only"]

/-- The command that tells which files the last merge has changed. -/
def mergedCommand : List String :=
  ["diff", "--name-only", "HEAD@\x7b1\x7d", "HEAD"]

/-- The command that tells which files an event is about, for hooks that ask for them. -/
def HookEvent.filesCommand? (event : HookEvent) : Option (List String) :=
  match event.type with
  | .preCommit => some stagedCommand
  | .postMerge => some mergedCommand
  | .prePush => none
  | .postCheckout => some ["diff", "--name-status", event.previousCommit.getD "", event.commit]

/-- Lookups do not begin with a command that no process can be given. -/
def Unrefused (command : List String) (log : List LookupExchange) : Prop :=
  ∀ reason, log.head? ≠ some ⟨.git command, .refused reason⟩

namespace Unrefused

variable {command : List String} {log more : List LookupExchange}

theorem nil : Unrefused command [] :=
  nofun

theorem asked {reply : GitReply} (asked : ∀ reason, reply ≠ .refused reason) :
    Unrefused command (⟨.git command, reply⟩ :: log) := by
  rintro reason ⟨⟩
  exact asked reason rfl

theorem other {first : List String} (others : first ≠ command) (reply : GitReply) :
    Unrefused command (⟨.git first, reply⟩ :: log) := by
  rintro reason ⟨⟩
  exact others rfl

theorem append (first : Unrefused command log) (second : Unrefused command more) :
    Unrefused command (log ++ more) := by
  cases log with
  | nil => exact second
  | cons asked rest => exact first

end Unrefused

/-- Whatever is looked up, it does not begin with a refusal of a command. -/
def Lookup.Avoids {α : Type} (command : List String) (program : Lookup α) : Prop :=
  program.Ensures fun log _ => Unrefused command log

namespace Lookup.Avoids

variable {α β : Type} {command : List String}

theorem pure (a : α) : Lookup.Avoids command (Pure.pure a) :=
  Unrefused.nil

theorem bind {program : Lookup α} {f : α → Lookup β} (avoids : Lookup.Avoids command program)
    (after : ∀ a, Lookup.Avoids command (f a)) : Lookup.Avoids command (program >>= f) :=
  Program.Ensures.bind <| Program.Ensures.weaken avoids fun _ a unrefused =>
    Program.Ensures.weaken (after a) fun _ _ => unrefused.append

theorem lift {σ : Type} {program : Lookup α} (avoids : Lookup.Avoids command program) (state : σ) :
    Lookup.Avoids command ((liftM program : StateT σ Lookup α).run state) :=
  avoids.bind fun _ => .pure _

theorem tool (name : String) (parameters : Json) : Lookup.Avoids command (Lookup.tool name parameters) :=
  fun _ _ => nofun

end Lookup.Avoids

namespace HookHandler

variable {α : Type} {command : List String} {log more : List LookupExchange}

/-- Work stops where a command is refused, and nothing else is looked up then. -/
def Heeds (command : List String) (log : List LookupExchange) : Except Impact.Fault α → Prop
  | .error (.refused refusal) => log = [⟨.git command, .refused refusal.message⟩]
  | _ => Unrefused command log

theorem Heeds.misshapen {answer : Except Impact.Misshape α} (unrefused : Unrefused command log) :
    Heeds command log (answer.mapError .misshapen) := by
  cases answer <;> exact unrefused

theorem Heeds.refused_iff {answer : Except Impact.Fault α} (heeds : Heeds command log answer) :
    (∃ refusal, answer = .error (.refused refusal)) ↔ ∃ reason, log = [⟨.git command, .refused reason⟩] := by
  constructor
  · rintro ⟨refusal, rfl⟩
    exact ⟨_, heeds⟩
  · rintro ⟨reason, rfl⟩
    match answer, heeds with
    | .error (.refused refusal), _ => exact ⟨refusal, rfl⟩
    | .error (.misshapen _), unrefused => exact absurd rfl (unrefused reason)
    | .ok _, unrefused => exact absurd rfl (unrefused reason)

/-- Where a command is read, it is the only one, and its refusal is passed on. -/
theorem heeds_of_reads {program : Git.Command α} {read : String → α} {otherwise : α}
    (reads : Git.Reads program command read otherwise) :
    program.run.Ensures fun log found => Heeds command log (found.mapError .refused) := by
  refine Program.Ensures.weaken reads ?_
  rintro _ _ ⟨reply, rfl, rfl⟩
  cases made : Git.outcome read otherwise reply with
  | error refusal =>
    obtain rfl := Git.outcome_error_iff.mp made
    exact rfl
  | ok found =>
    refine Unrefused.asked fun reason refused => ?_
    rw [refused] at made
    cases made

theorem knownOr_heeds (given : Option (List String)) (arguments : List String) :
    (knownOr given (Git.listed arguments)).run.Ensures fun log found =>
      Heeds arguments log (found.mapError .refused) := by
  cases given with
  | some files => exact Unrefused.nil
  | none => exact heeds_of_reads (Git.listed_reads arguments)

theorem index_avoids (command : List String) (handler : HookHandler) (event : HookEvent) (files : List String) :
    Lookup.Avoids command (handler.index event files) := by
  unfold index callTool
  refine Lookup.Avoids.bind ?_ fun reply => ?_
  · split
    · exact .pure _
    · exact .tool _ _
  · cases reply <;> exact .pure _

theorem indexStaged_avoids (command : List String) (handler : HookHandler) (event : HookEvent)
    (staged : List String) :
    Lookup.Avoids command (handler.indexStaged event staged) := by
  unfold indexStaged
  dsimp only
  split
  · exact .pure _
  · split
    · exact .pure _
    · split
      · exact .pure _
      · refine (index_avoids command handler event staged).bind fun answer => ?_
        cases answer <;> exact .pure _

theorem preCommit_heeds (handler : HookHandler) (event : HookEvent) :
    (handler.preCommit event).Ensures fun log answer => Heeds stagedCommand log answer := by
  unfold preCommit
  split
  · exact Unrefused.nil
  · refine .bind ((knownOr_heeds event.stagedFiles _).weaken fun log found heeds => ?_)
    cases found with
    | error refusal =>
      exact .pure_append heeds
    | ok staged =>
      refine .bind (Program.Ensures.weaken (indexStaged_avoids stagedCommand handler event staged) ?_)
      refine fun more answer unrefused => .pure ?_
      exact .misshapen (Unrefused.append heeds (unrefused.append .nil))

theorem markMerged_avoids (command : List String) (handler : HookHandler) (event : HookEvent) (merge : Merge)
    (desk : HookDesk) :
    Lookup.Avoids command ((handler.markMerged event merge).run desk) := by
  unfold markMerged
  split <;> exact .pure _

theorem indexMerged_avoids (command : List String) (handler : HookHandler) (event : HookEvent)
    (merged : List String) (desk : HookDesk) :
    Lookup.Avoids command ((handler.indexMerged event merged).run desk) := by
  unfold indexMerged
  dsimp only
  split
  · exact .pure _
  · split
    · exact .pure _
    · split
      · exact .pure _
      · refine ((index_avoids command handler event merged).lift desk).bind ?_
        rintro ⟨reason | misshape | indexed, next⟩
        · exact .pure _
        · exact .pure _
        · exact markMerged_avoids command handler event _ next

theorem syncMerged_heeds (handler : HookHandler) (event : HookEvent) (desk : HookDesk) :
    ((handler.syncMerged event).run desk).Ensures fun log out =>
      Heeds mergedCommand log (out.1.mapError .refused) := by
  unfold syncMerged
  split
  · exact Unrefused.nil
  · refine .bind (((knownOr_heeds event.mergedFiles _).lift desk).weaken ?_)
    rintro log ⟨refusal | merged, next⟩ ⟨heeds, -⟩
    · exact .pure_append heeds
    · refine .bind (Program.Ensures.weaken (indexMerged_avoids mergedCommand handler event merged next) ?_)
      refine fun more out unrefused => .pure ?_
      exact Unrefused.append heeds (unrefused.append .nil)

/-- The main branch is looked for before anything else. -/
theorem analyzeMerged_avoids (others : ["branch", "-r"] ≠ command) (handler : HookHandler)
    (now : DateTime) (event : HookEvent) : Lookup.Avoids command (handler.analyzeMerged now event).run := by
  refine Program.Ensures.adapt_bind (Program.Ensures.weaken Git.baseBranch_reads ?_)
  rintro _ _ ⟨reply, rfl, rfl⟩
  cases Git.outcome Git.baseBranchOf "main" reply with
  | error refusal => exact .other others reply
  | ok baseBranch => exact (Program.ensures_true _).weaken fun _ _ _ => .other others reply

theorem reportMerged_avoids (others : ["branch", "-r"] ≠ command) (handler : HookHandler)
    (now : DateTime) (event : HookEvent) (merge : Merge) (desk : HookDesk) :
    Lookup.Avoids command ((handler.reportMerged now event merge).run desk) := by
  unfold reportMerged
  split
  · exact .pure _
  · refine ((analyzeMerged_avoids others handler now event).lift desk).bind ?_
    rintro ⟨fault | report, next⟩
    · exact .pure _
    · refine Lookup.Avoids.bind (.pure _) fun _ => Lookup.Avoids.bind ?_ fun _ => .pure _
      unfold printSummary
      split <;> exact .pure _

theorem postMerge_heeds (handler : HookHandler) (now : DateTime) (event : HookEvent) (desk : HookDesk) :
    ((handler.postMerge now event).run desk).Ensures fun log out =>
      Heeds mergedCommand log out.1 := by
  unfold postMerge
  refine .bind ((syncMerged_heeds handler event desk).weaken ?_)
  rintro log ⟨refusal | merge, next⟩ heeds
  · exact .pure_append heeds
  · have others : ["branch", "-r"] ≠ mergedCommand := by decide
    refine .bind (Program.Ensures.weaken (reportMerged_avoids others handler now event merge next) ?_)
    refine fun more out unrefused => .pure ?_
    exact Unrefused.append heeds (unrefused.append .nil)

theorem postCheckout_heeds (event : HookEvent) :
    ((postCheckout event).adapt Impact.Fault.refused).run.Ensures fun log answer =>
      Heeds ["diff", "--name-status", event.previousCommit.getD "", event.commit] log answer := by
  unfold postCheckout
  split
  · exact Unrefused.nil
  · refine .adapt (.bind ((heeds_of_reads (Git.changes_reads _)).weaken fun log found heeds => ?_))
    cases found with
    | error refusal =>
      exact .pure_append heeds
    | ok changed => exact .pure (Unrefused.append heeds .nil)

theorem prePush_goesOn (handler : HookHandler) (event : HookEvent) :
    (handler.prePush event).Ensures fun _ answer => ∀ refusal, answer ≠ .error (.refused refusal) := by
  unfold prePush
  split
  · exact .pure nofun
  · split
    · exact .pure nofun
    · refine .bind ((Program.ensures_true _).weaken fun _ reply _ => ?_)
      cases reply with
      | error reason => exact .pure nofun
      | ok answer =>
        refine .pure fun refusal same => ?_
        dsimp only [Except.mapError] at same
        split at same <;> cases same

/-- Whatever the hook is, its handling stops at the command for its files if no process can be given it, and then
nothing else is looked up. Other refusals do not stop it. -/
theorem dispatch_refused_iff (handler : HookHandler) (now : DateTime) (event : HookEvent) (desk : HookDesk) :
    ((handler.dispatch now event).run desk).Ensures fun log out =>
      (∃ refusal, out.1 = .error (.refused refusal)) ↔
        ∃ command reason, event.filesCommand? = some command ∧ log = [⟨.git command, .refused reason⟩] := by
  unfold dispatch HookEvent.filesCommand?
  cases event.type with
  | preCommit =>
    refine ((preCommit_heeds handler event).lift desk).weaken ?_
    rintro log out ⟨heeds, -⟩
    simpa using heeds.refused_iff
  | postMerge =>
    refine (postMerge_heeds handler now event desk).weaken fun log out heeds => ?_
    simpa using heeds.refused_iff
  | prePush =>
    refine ((prePush_goesOn handler event).lift desk).weaken ?_
    rintro log out ⟨goesOn, -⟩
    simpa using goesOn
  | postCheckout =>
    refine ((postCheckout_heeds event).lift desk).weaken ?_
    rintro log out ⟨heeds, -⟩
    simpa using heeds.refused_iff

end HookHandler

end CodeGraph
