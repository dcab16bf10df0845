import CodeGraph.Proofs.Impact.Calls

namespace CodeGraph

namespace Impact

namespace Analysis

variable {α β : Type}

/-- Whatever is looked up, there is a result if and only if the lookups and their answers fit. -/
def Settles (analysis : Analysis α) (fits : List LookupExchange → Prop) : Prop :=
  analysis.run.Ensures fun log result => (∃ a, result = .ok a) ↔ fits log

/-- Whatever is looked up, a result is as wanted. -/
def Gives (analysis : Analysis α) (wanted : α → Prop) : Prop :=
  analysis.run.Ensures fun _ result => ∀ a, result = .ok a → wanted a

namespace Gives

variable {wanted : α → Prop} {later : β → Prop}

theorem pure {a : α} (holds : wanted a) : Gives (Pure.pure a) wanted := by
  rintro _ ⟨⟩
  exact holds

theorem bind {analysis : Analysis α} {f : α → Analysis β} (gives : Gives analysis wanted)
    (after : ∀ a, wanted a → Gives (f a) later) : Gives (analysis >>= f) later := by
  refine Program.Ensures.bind (Program.Ensures.weaken gives fun log result holds => ?_)
  cases result with
  | ok a => exact after a (holds a rfl)
  | error misshape => exact Program.Ensures.pure nofun

end Gives

/-- What is made of a result makes no difference to the lookups. -/
theorem ensures_map {wanted : List LookupExchange → Except Misshape β → Prop} {analysis : Analysis α} (f : α → β)
    (ensures : analysis.run.Ensures fun log result => wanted log (result.map f)) :
    (analysis >>= fun a => Pure.pure (f a)).run.Ensures wanted := by
  refine Program.Ensures.bind (Program.Ensures.weaken ensures fun log result holds => ?_)
  rw [← List.append_nil log] at holds
  cases result with
  | ok a => exact .pure holds
  | error misshape => exact .pure holds

/-- What follows is looked up after a result, and a misshape ends the analysis. -/
theorem ensures_bind {wanted : List LookupExchange → Except Misshape β → Prop} {analysis : Analysis α}
    {f : α → Analysis β}
    (ensures : analysis.run.Ensures fun log result =>
      match result with
      | .ok a => (f a).run.Ensures fun more b => wanted (log ++ more) b
      | .error misshape => wanted log (.error misshape)) : (analysis >>= f).run.Ensures wanted := by
  refine Program.Ensures.bind (Program.Ensures.weaken ensures fun log result holds => ?_)
  cases result with
  | ok a => exact holds
  | error misshape =>
    rw [← List.append_nil log] at holds
    exact .pure holds

theorem ensures_call {name : String} {parameters : Members} {f : ToolReply → Analysis β}
    {wanted : List LookupExchange → Except Misshape β → Prop}
    (after : ∀ reply, (f reply).run.Ensures fun log result =>
      wanted (⟨.tool name (.obj parameters), reply⟩ :: log) result) :
    (Analysis.call name parameters >>= f).run.Ensures wanted :=
  after

namespace Settles

variable {fits first second : List LookupExchange → Prop}

theorem pure (a : α) (holds : fits []) : Settles (Pure.pure a) fits :=
  iff_of_true ⟨a, rfl⟩ holds

theorem lift {answer : Except Misshape α} (settles : (∃ a, answer = .ok a) ↔ fits []) :
    Settles (liftM answer) fits :=
  settles

theorem weaken {weaker : List LookupExchange → Prop} {analysis : Analysis α}
    (settles : Settles analysis fits) (same : ∀ log, fits log ↔ weaker log) :
    Settles analysis weaker :=
  Program.Ensures.weaken settles fun log _ holds => holds.trans (same log)

/-- What follows has to be settled only for results that can be. -/
theorem bind_known {known : List LookupExchange → Prop} {wanted : α → Prop} {analysis : Analysis α}
    {f : α → Analysis β} (settles : Settles analysis first)
    (ensures : analysis.run.Ensures fun log result => known log ∧ ∀ a, result = .ok a → wanted a)
    (after : ∀ a, wanted a → Settles (f a) second)
    (joins : ∀ log more, known log → (fits (log ++ more) ↔ first log ∧ second more)) :
    Settles (analysis >>= f) fits := by
  have both := Program.Ensures.and settles ensures
  refine Program.Ensures.bind (Program.Ensures.weaken both fun log result ⟨holds, isKnown, given⟩ => ?_)
  cases result with
  | ok a =>
    refine Program.Ensures.weaken (after a (given a rfl)) fun more b later => ?_
    rw [joins log more isKnown, later]
    exact (and_iff_right (holds.mp ⟨a, rfl⟩)).symm
  | error misshape =>
    refine Program.Ensures.pure (iff_of_false nofun ?_)
    rw [joins log [] isKnown]
    rintro ⟨fitting, _⟩
    simpa using holds.mpr fitting

theorem bind {analysis : Analysis α} {f : α → Analysis β} (settles : Settles analysis first)
    (after : ∀ a, Settles (f a) second)
    (joins : ∀ log more, fits (log ++ more) ↔ first log ∧ second more) :
    Settles (analysis >>= f) fits := by
  have anything : analysis.run.Ensures fun _ result => True ∧ ∀ a, result = .ok a → True :=
    Program.Ensures.weaken (Program.ensures_true _) fun _ _ _ => ⟨trivial, fun _ _ => trivial⟩
  exact settles.bind_known anything (fun a _ => after a) fun log more _ => joins log more

theorem map {analysis : Analysis α} (settles : Settles analysis fits) (f : α → β) :
    Settles (analysis >>= fun a => Pure.pure (f a)) fits := by
  refine ensures_map f (Program.Ensures.weaken settles fun log result holds => ?_)
  cases result with
  | ok a => exact iff_of_true ⟨f a, rfl⟩ (holds.mp ⟨a, rfl⟩)
  | error misshape => exact iff_of_false nofun fun fitting => by simpa using holds.mpr fitting

theorem call {name : String} {parameters : Members} {f : ToolReply → Analysis β}
    (after : ∀ reply, Settles (f reply) fun log => fits (⟨.tool name (.obj parameters), reply⟩ :: log)) :
    Settles (Analysis.call name parameters >>= f) fits :=
  ensures_call after

/-- An answer is gone on with, or else ends the analysis. -/
theorem lift_bind {answer : Except Misshape α} {f : α → Analysis β}
    (goesOn : ∀ a, answer = .ok a → Settles (f a) fits) (ends : (∀ a, answer ≠ .ok a) → ¬ fits []) :
    Settles (liftM answer >>= f) fits := by
  cases answer with
  | ok a => exact goesOn a rfl
  | error misshape => exact iff_of_false nofun (ends nofun)

/-- Nothing but an object can be asked for a member. -/
theorem member_bind {item : Json} {key : String} {f : Json → Analysis β}
    (objects : ∀ members, item = .obj members →
      Settles (f ((Members.get? members key).getD .null)) fits)
    (others : (∀ members, item ≠ .obj members) → ¬ fits []) :
    Settles (liftM (member item key) >>= f) fits := by
  cases item with
  | obj members => exact objects members rfl
  | _ => exact iff_of_false nofun (others nofun)

theorem checked_bind {wanted : Prop} {schema : Schema α} {members : Members} {f : α → Analysis β}
    (valid : (∃ a, schema.validate (.obj members) = .ok a) ↔ wanted)
    (after : ∀ a, schema.validate (.obj members) = .ok a → Settles (f a) second)
    (joins : ∀ log, fits log ↔ wanted ∧ second log) :
    Settles (checked schema members >>= f) fits := by
  unfold checked
  cases read : schema.validate (.obj members) with
  | ok a => exact (after a read).weaken fun log => by simp [joins, ← valid, read]
  | error reason =>
    refine iff_of_false nofun fun fitting => ?_
    simpa [read] using valid.mpr ((joins []).mp fitting).1

/-- What a tool that is left alone answers makes no difference. -/
theorem spared {analysis : Analysis α} {other : List LookupExchange → Prop} (called : String)
    (settles : Settles analysis fits) (spares : Analysis.Spares called analysis)
    (same : ∀ log, answers called log = [] → (fits log ↔ other log)) : Settles analysis other :=
  (Program.Ensures.and settles spares).weaken fun log _ holds => holds.1.trans (same log holds.2)

end Settles

theorem lift_bind (answer : Except Misshape α) (f : α → Except Misshape β) :
    (liftM (answer >>= f) : Analysis β) = (liftM answer : Analysis α) >>= fun a => liftM (f a) := by
  cases answer <;> rfl

theorem lift_ok_bind (a : α) (f : α → Analysis β) :
    (liftM (.ok a : Except Misshape α) : Analysis α) >>= f = f a :=
  rfl

theorem checked_eq (schema : Schema α) (members : Members) :
    checked schema members = liftM ((schema.validate (.obj members)).mapError Misshape.invalid) := by
  unfold checked
  cases schema.validate (.obj members) <;> rfl

theorem ensures_spared {analysis : Analysis α}
    {wanted : List LookupExchange → Except Misshape α → Prop} (tools : List String)
    (ensures : analysis.run.Ensures wanted) (spares : ∀ called ∈ tools, Analysis.Spares called analysis) :
    analysis.run.Ensures fun log result =>
      wanted log result ∧ ∀ called ∈ tools, answers called log = [] := by
  induction tools with
  | nil => exact ensures.weaken fun log result holds => ⟨holds, nofun⟩
  | cons called rest ih =>
    rw [List.forall_mem_cons] at spares
    refine (Program.Ensures.and (ih spares.2) spares.1).weaken fun log result holds => ?_
    exact ⟨holds.1.1, List.forall_mem_cons.mpr ⟨holds.2, holds.1.2⟩⟩

theorem run_lift_bind (program : Lookup α) (f : α → Analysis β) :
    (ExceptT.lift program >>= f).run = program.bind fun a => (f a).run := by
  induction program with
  | done a => rfl
  | ask request next ih => exact congrArg (Program.ask request) (funext ih)

end Analysis

end Impact

end CodeGraph
