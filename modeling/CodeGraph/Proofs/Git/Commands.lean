import CodeGraph.Git.Command
import CodeGraph.Proofs.Exchanges

namespace CodeGraph.Git

variable {α : Type}

/-- What is made of the way in which a command ended: what it has printed is read, and there is something else
for a failure. A refusal is passed on. -/
def outcome (read : String → α) (otherwise : α) : GitReply → Except Refusal α
  | .refused reason => .error ⟨reason⟩
  | .exited 0 out _ => .ok (read (Text.decodeUtf8 out))
  | _ => .ok otherwise

variable {read : String → α} {otherwise : α} {reply : GitReply}

/-- Nothing but a refusal is passed on. -/
theorem outcome_error_iff {refusal : Refusal} :
    outcome read otherwise reply = .error refusal ↔ reply = .refused refusal.message := by
  cases reply with
  | refused reason => exact ⟨by rintro ⟨⟩; rfl, by rintro ⟨⟩; rfl⟩
  | notStarted reason => exact ⟨nofun, nofun⟩
  | timedOut => exact ⟨nofun, nofun⟩
  | exited code out errors => unfold outcome; split <;> simp_all

theorem outcome_failed (asked : ∀ reason, reply ≠ .refused reason) (failed : ∀ out errors, reply ≠ .exited 0 out errors) :
    outcome read otherwise reply = .ok otherwise := by
  unfold outcome
  split
  · exact absurd rfl (asked _)
  · exact absurd rfl (failed _ _)
  · rfl

/-- A computation runs one command, and makes of it what is read from its output, or else something for a
failure. -/
def Reads (program : Command α) (arguments : List String) (read : String → α) (otherwise : α) : Prop :=
  program.run.Ensures fun log found => ∃ reply : GitReply,
    log = [⟨.git arguments, reply⟩] ∧ found = outcome read otherwise reply

theorem Reads.run {program : Command α} {arguments : List String} {σ : Type}
    (reads : Reads program arguments read otherwise)
    (respond : (request : LookupRequest) → σ → request.Reply × σ) (state : σ) :
    (program.run.run respond state).1 = outcome read otherwise (respond (.git arguments) state).1 := by
  obtain ⟨reply, log, found⟩ := Program.Ensures.exchanges reads respond state
  obtain rfl := Program.exchanges_head log
  exact found

theorem reads_run (arguments : List String) {f : Except Failure String → Command α}
    (printed : ∀ text, f (.ok text) = pure (read text))
    (failed : ∀ failure, f (.error failure) = pure otherwise) :
    Reads (Git.run arguments >>= f) arguments read otherwise := by
  intro (reply : GitReply)
  change Program.Ensures (ExceptT.bindCont f (output arguments "30.0" reply) : Lookup (Except Refusal α)) _
  cases reply with
  | refused reason => exact ⟨_, rfl, rfl⟩
  | notStarted reason =>
    change (f (.error (.notStarted reason))).run.Ensures _
    rw [failed]
    exact ⟨_, rfl, rfl⟩
  | timedOut =>
    change (f (.error (.timedOut arguments "30.0"))).run.Ensures _
    rw [failed]
    exact ⟨_, rfl, rfl⟩
  | exited code out errors =>
    by_cases success : code = 0
    · subst success
      change (f (.ok (Text.decodeUtf8 out))).run.Ensures _
      rw [printed]
      exact ⟨_, rfl, rfl⟩
    · rw [output, if_neg success]
      change (f (.error _)).run.Ensures _
      rw [failed]
      exact ⟨_, rfl, (outcome_failed (by simp) (by simp [success])).symm⟩

theorem changes_reads (arguments : List String) :
    Reads (changes arguments) (["diff", "--name-status"] ++ arguments) ChangedFiles.ofNameStatus {} :=
  reads_run _ (fun _ => rfl) fun _ => rfl

theorem listed_reads (arguments : List String) : Reads (listed arguments) arguments filledLines [] :=
  reads_run _ (fun _ => rfl) fun _ => rfl

theorem baseBranch_reads : Reads baseBranch ["branch", "-r"] baseBranchOf "main" :=
  reads_run _ (fun _ => rfl) fun _ => rfl

end CodeGraph.Git
