import CodeGraph.Program

namespace CodeGraph

namespace Program

variable {Request : Type} {Reply : Request → Type} {α β σ : Type}

/-- The requests that a program puts in a run, each with its reply, in their order. -/
def exchanges (respond : (request : Request) → σ → Reply request × σ) :
    Program Request Reply α → σ → List ((request : Request) × Reply request)
  | .done _, _ => []
  | .ask request rest, state =>
    let (reply, next) := respond request state
    ⟨request, reply⟩ :: (rest reply).exchanges respond next

/-- The first reply is what the surroundings give at the start. -/
theorem exchanges_head {respond : (request : Request) → σ → Reply request × σ} {state : σ}
    {program : Program Request Reply α} {request : Request} {reply : Reply request}
    {more : List ((request : Request) × Reply request)}
    (asked : program.exchanges respond state = ⟨request, reply⟩ :: more) :
    reply = (respond request state).1 := by
  cases program with
  | done a => cases asked
  | ask other rest =>
    cases asked
    rfl

/-- The requests of a program that goes on are its own and then those that follow. -/
theorem exchanges_bind (respond : (request : Request) → σ → Reply request × σ)
    (program : Program Request Reply α) (f : α → Program Request Reply β) (state : σ) :
    (program.bind f).exchanges respond state = program.exchanges respond state ++
      (f (program.run respond state).1).exchanges respond (program.run respond state).2 := by
  induction program generalizing state with
  | done a => rfl
  | ask request rest ih => exact congrArg (List.cons ⟨request, (respond request state).1⟩) (ih _ _)

/-- Whatever a program is answered, its log and its result are as wanted. -/
def Ensures (program : Program Request Reply α)
    (wanted : List ((request : Request) × Reply request) → α → Prop) : Prop :=
  match program with
  | .done a => wanted [] a
  | .ask request rest => ∀ reply, (rest reply).Ensures fun log a => wanted (⟨request, reply⟩ :: log) a

theorem Ensures.pure {wanted : List ((request : Request) × Reply request) → α → Prop} {a : α}
    (holds : wanted [] a) : (Pure.pure a : Program Request Reply α).Ensures wanted :=
  holds

/-- Where nothing more is asked for, what is wanted holds of the log so far. -/
theorem Ensures.pure_append {wanted : List ((request : Request) × Reply request) → α → Prop}
    {log : List ((request : Request) × Reply request)} {a : α} (holds : wanted log a) :
    (Pure.pure a : Program Request Reply α).Ensures fun more b => wanted (log ++ more) b := by
  refine .pure ?_
  rw [List.append_nil]
  exact holds

theorem ensures_true (program : Program Request Reply α) : program.Ensures fun _ _ => True := by
  induction program with
  | done a => trivial
  | ask request rest ih => exact ih

theorem Ensures.weaken {wanted weaker : List ((request : Request) × Reply request) → α → Prop}
    {program : Program Request Reply α} (ensures : program.Ensures wanted)
    (implies : ∀ log a, wanted log a → weaker log a) : program.Ensures weaker := by
  induction program generalizing wanted weaker with
  | done a => exact implies [] a ensures
  | ask request rest ih => exact fun reply => ih reply (ensures reply) fun log => implies _

theorem Ensures.bind {wanted : List ((request : Request) × Reply request) → β → Prop}
    {program : Program Request Reply α} {f : α → Program Request Reply β}
    (ensures : program.Ensures fun log a => (f a).Ensures fun more b => wanted (log ++ more) b) :
    (program.bind f).Ensures wanted := by
  induction program generalizing wanted with
  | done a => exact ensures
  | ask request rest ih => exact fun reply => ih reply (ensures reply)

theorem Ensures.and {first second : List ((request : Request) × Reply request) → α → Prop}
    {program : Program Request Reply α} (ensures : program.Ensures first)
    (also : program.Ensures second) : program.Ensures fun log a => first log a ∧ second log a := by
  induction program generalizing first second with
  | done a => exact ⟨ensures, also⟩
  | ask request rest ih => exact fun reply => ih reply (ensures reply) (also reply)

/-- A program leaves the state of work that it is part of. -/
theorem Ensures.lift {τ : Type} {wanted : List ((request : Request) × Reply request) → α → Prop}
    {program : Program Request Reply α} (ensures : program.Ensures wanted) (state : τ) :
    ((liftM program : StateT τ (Program Request Reply) α).run state).Ensures fun log out =>
      wanted log out.1 ∧ out.2 = state := by
  refine .bind (ensures.weaken fun log a holds => ⟨?_, rfl⟩)
  rw [List.append_nil]
  exact holds

/-- What follows is asked after a result. Another failure is given for one that ends the program. -/
theorem Ensures.adapt_bind {ε ε' : Type} {wanted : List ((request : Request) × Reply request) → Except ε' β → Prop}
    {program : ExceptT ε (Program Request Reply) α} {f : α → ExceptT ε' (Program Request Reply) β} {g : ε → ε'}
    (ensures : program.run.Ensures fun log result =>
      match result with
      | .ok a => (f a).run.Ensures fun more b => wanted (log ++ more) b
      | .error failure => wanted log (.error (g failure))) :
    (program.adapt g >>= f).run.Ensures wanted := by
  refine .bind (.bind (ensures.weaken fun log result holds => .pure ?_))
  rw [List.append_nil]
  cases result with
  | ok a => exact holds
  | error failure => exact .pure_append holds

theorem Ensures.adapt {ε ε' : Type} {wanted : List ((request : Request) × Reply request) → Except ε' α → Prop}
    {program : ExceptT ε (Program Request Reply) α} {g : ε → ε'}
    (ensures : program.run.Ensures fun log result => wanted log (result.mapError g)) :
    (program.adapt g).run.Ensures wanted := by
  refine .bind (ensures.weaken fun log result holds => .pure ?_)
  rw [List.append_nil]
  exact holds

theorem Ensures.exchanges {wanted : List ((request : Request) × Reply request) → α → Prop}
    {program : Program Request Reply α} (ensures : program.Ensures wanted)
    (respond : (request : Request) → σ → Reply request × σ) (state : σ) :
    wanted (program.exchanges respond state) (program.run respond state).1 := by
  induction program generalizing wanted state with
  | done a => exact ensures
  | ask request rest ih => exact ih _ (ensures _) _

end Program

namespace Task

variable {Failure Request : Type} {Value : Request → Type} {α β σ : Type}
  {wanted : List ((request : Request) × Except Failure (Value request)) → Except Failure β → Prop}

/-- What a task is followed by, if it does not fail, is asked for after it. -/
theorem exchanges_bind_ok {respond : (request : Request) → σ → Except Failure (Value request) × σ}
    {task : Task Failure Request Value α} {a : α} {state : σ} (finished : (task.run.run respond state).1 = .ok a)
    (f : α → Task Failure Request Value β) : (task >>= f).run.exchanges respond state =
      task.run.exchanges respond state ++ (f a).run.exchanges respond (task.run.run respond state).2 := by
  refine (Program.exchanges_bind respond task.run (ExceptT.bindCont f) state).trans ?_
  rw [finished]
  rfl

/-- What an attempt is followed by is as wanted whether it failed or not. -/
theorem ensures_attempt {task : Task Failure Request Value α} {f : Except Failure α → Task Failure Request Value β}
    (ensures : task.run.Ensures fun log result => (f result).run.Ensures fun more b => wanted (log ++ more) b) :
    (attempt task >>= f).run.Ensures wanted := by
  refine Program.Ensures.bind (Program.Ensures.bind (ensures.weaken fun log result holds => ?_))
  rw [← List.append_nil log] at holds
  exact holds

/-- A request that fails ends a task. -/
theorem ensures_call {request : Request} {f : Value request → Task Failure Request Value β}
    (failed : ∀ failure, wanted [⟨request, .error failure⟩] (.error failure))
    (after : ∀ value, (f value).run.Ensures fun log result => wanted (⟨request, .ok value⟩ :: log) result) :
    (call request >>= f).run.Ensures wanted := by
  intro reply
  cases reply with
  | error failure => exact failed failure
  | ok value => exact after value

end Task

end CodeGraph
