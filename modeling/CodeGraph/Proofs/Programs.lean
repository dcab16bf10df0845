import CodeGraph.Program

namespace CodeGraph

namespace Program

variable {Request : Type} {Reply : Request → Type} {α β σ : Type}

/-- The ways in which a request can be answered, each with the state before and after it. -/
abbrev Answering (Request : Type) (Reply : Request → Type) (σ : Type) :=
  (request : Request) → σ → Reply request → σ → Prop

/-- What is left of a program after some of its requests, with the state that they led to. -/
inductive Reaches (answers : Answering Request Reply σ) (program : Program Request Reply α)
    (state : σ) : Program Request Reply α → σ → Prop
  | start : Reaches answers program state program state
  | next {request : Request} {rest : Reply request → Program Request Reply α} {before after : σ}
      {reply : Reply request} : Reaches answers program state (.ask request rest) before →
      answers request before reply after → Reaches answers program state (rest reply) after

/-- A condition on states holds after every request if it holds before it, and results are as wanted. -/
def Keeps (answers : Answering Request Reply σ) (kept : σ → Prop) (wanted : α → Prop) :
    Program Request Reply α → Prop
  | .done a => wanted a
  | .ask request rest => ∀ before reply after, kept before → answers request before reply after →
      kept after ∧ (rest reply).Keeps answers kept wanted

variable {answers : Answering Request Reply σ} {kept : σ → Prop}

theorem Keeps.weaken {wanted weaker : α → Prop} {program : Program Request Reply α}
    (keeps : program.Keeps answers kept wanted) (implies : ∀ a, wanted a → weaker a) :
    program.Keeps answers kept weaker := by
  induction program with
  | done a => exact implies a keeps
  | ask request rest ih =>
    intro before reply after holds answered
    obtain ⟨still, rest⟩ := keeps before reply after holds answered
    exact ⟨still, ih reply rest⟩

/-- What is kept in whichever ways requests are answered is kept when they are answered in fewer ways. -/
theorem Keeps.restrict {narrower : Answering Request Reply σ} {wanted : α → Prop}
    {program : Program Request Reply α} (keeps : program.Keeps answers kept wanted)
    (fewer : ∀ request before reply after, narrower request before reply after →
      answers request before reply after) : program.Keeps narrower kept wanted := by
  induction program with
  | done a => exact keeps
  | ask request rest ih =>
    intro before reply after holds answered
    obtain ⟨still, rest⟩ := keeps before reply after holds (fewer _ _ _ _ answered)
    exact ⟨still, ih reply rest⟩

theorem Keeps.bind {middle : α → Prop} {wanted : β → Prop} {program : Program Request Reply α}
    {f : α → Program Request Reply β} (keeps : program.Keeps answers kept middle)
    (after : ∀ a, middle a → (f a).Keeps answers kept wanted) :
    (program.bind f).Keeps answers kept wanted := by
  induction program with
  | done a => exact after a keeps
  | ask request rest ih =>
    intro before reply next holds answered
    obtain ⟨still, rest⟩ := keeps before reply next holds answered
    exact ⟨still, ih reply rest⟩

/-- What a program keeps holds in every state that it leads to. -/
theorem Reaches.keeps {wanted : α → Prop} {program rest : Program Request Reply α} {state last : σ}
    (reach : Reaches answers program state rest last) (keeps : program.Keeps answers kept wanted)
    (holds : kept state) : kept last ∧ rest.Keeps answers kept wanted := by
  induction reach with
  | start => exact ⟨holds, keeps⟩
  | next previous answered ih => exact ih.2 _ _ _ ih.1 answered

theorem Reaches.trans {first middle last : Program Request Reply α} {start between final : σ}
    (reach : Reaches answers first start middle between)
    (further : Reaches answers middle between last final) : Reaches answers first start last final := by
  induction further with
  | start => exact reach
  | next previous answered ih => exact .next ih answered

/-- A run is one of the ways in which a program can come to its end, whatever more than the state it goes
by. -/
theorem reaches_run {σ' : Type} (state : σ' → σ) {respond : (request : Request) → σ' → Reply request × σ'}
    (answered : ∀ request whole, answers request (state whole) (respond request whole).1
      (state (respond request whole).2)) (program : Program Request Reply α) (whole : σ') :
    Reaches answers program (state whole) (.done (program.run respond whole).1)
      (state (program.run respond whole).2) := by
  induction program generalizing whole with
  | done a => exact .start
  | ask request rest ih =>
    have first : Reaches answers (.ask request rest) (state whole) (rest (respond request whole).1)
        (state (respond request whole).2) := .next .start (answered request whole)
    exact first.trans (ih _ _)

theorem run_bind (respond : (request : Request) → σ → Reply request × σ)
    (program : Program Request Reply α) (f : α → Program Request Reply β) (state : σ) :
    (program.bind f).run respond state =
      (f (program.run respond state).1).run respond (program.run respond state).2 := by
  induction program generalizing state with
  | done a => rfl
  | ask request rest ih => exact ih _ _

end Program

namespace Task

variable {Failure Request : Type} {Value : Request → Type} {α β σ : Type}

/-- What a task keeps, whether it fails or not, with the results wanted of it if it does not. -/
def Keeps (answers : Program.Answering Request (fun request => Except Failure (Value request)) σ)
    (kept : σ → Prop) (wanted : α → Prop) (task : Task Failure Request Value α) : Prop :=
  task.run.Keeps answers kept fun result => ∀ a, result = .ok a → wanted a

variable {answers : Program.Answering Request (fun request => Except Failure (Value request)) σ}
  {kept : σ → Prop}

theorem Keeps.pure {wanted : α → Prop} {a : α} (holds : wanted a) :
    Keeps answers kept wanted (Pure.pure a : Task Failure Request Value α) := by
  rintro _ ⟨⟩
  exact holds

theorem Keeps.throw {wanted : α → Prop} (failure : Failure) :
    Keeps answers kept wanted (throw failure : Task Failure Request Value α) := by
  rintro _ ⟨⟩

theorem Keeps.weaken {wanted weaker : α → Prop} {task : Task Failure Request Value α}
    (keeps : task.Keeps answers kept wanted) (implies : ∀ a, wanted a → weaker a) :
    task.Keeps answers kept weaker :=
  Program.Keeps.weaken keeps fun _ holds a same => implies a (holds a same)

theorem Keeps.restrict {wanted : α → Prop} {task : Task Failure Request Value α}
    {narrower : Program.Answering Request (fun request => Except Failure (Value request)) σ}
    (keeps : task.Keeps answers kept wanted)
    (fewer : ∀ request before reply after, narrower request before reply after →
      answers request before reply after) : task.Keeps narrower kept wanted :=
  Program.Keeps.restrict keeps fewer

theorem Keeps.bind {middle : α → Prop} {wanted : β → Prop} {task : Task Failure Request Value α}
    {f : α → Task Failure Request Value β} (keeps : task.Keeps answers kept middle)
    (after : ∀ a, middle a → (f a).Keeps answers kept wanted) :
    (task >>= f).Keeps answers kept wanted := by
  refine Program.Keeps.bind keeps fun result holds => ?_
  cases result with
  | ok a => exact after a (holds a rfl)
  | error failure => rintro _ ⟨⟩

theorem Keeps.attempt {wanted : α → Prop} {task : Task Failure Request Value α}
    (keeps : task.Keeps answers kept wanted) :
    (Task.attempt task).Keeps answers kept fun result => ∀ a, result = .ok a → wanted a := by
  refine Program.Keeps.bind keeps fun result holds => ?_
  rintro _ ⟨⟩
  exact holds

theorem Keeps.call {request : Request} {wanted : Value request → Prop}
    (keeps : ∀ before reply after, kept before → answers request before reply after →
      kept after ∧ ∀ a, reply = .ok a → wanted a) :
    Keeps answers kept wanted (Task.call request : Task Failure Request Value (Value request)) :=
  fun before reply after holds answered => keeps before reply after holds answered

/-- Runs a task against surroundings that answer in one way. -/
def runIn (respond : (request : Request) → σ → Except Failure (Value request) × σ)
    (task : Task Failure Request Value α) (state : σ) : Except Failure α × σ :=
  task.run.run respond state

variable (respond : (request : Request) → σ → Except Failure (Value request) × σ)

theorem runIn_bind (task : Task Failure Request Value α) (f : α → Task Failure Request Value β)
    (state : σ) : runIn respond (task >>= f) state =
      match runIn respond task state with
      | (.ok a, next) => runIn respond (f a) next
      | (.error failure, next) => (.error failure, next) := by
  have unfolded := Program.run_bind respond task.run (fun result => match result with
    | .ok a => (f a).run
    | .error failure => .done (.error failure)) state
  refine (Eq.trans ?_ unfolded).trans ?_
  · rfl
  · simp only [runIn]
    rcases task.run.run respond state with ⟨result, next⟩
    cases result <;> rfl

theorem run_bind_ok {task : Task Failure Request Value α} {a : α} {state : σ}
    (finished : (task.run.run respond state).1 = .ok a) (f : α → Task Failure Request Value β) :
    (task >>= f).run.run respond state = (f a).run.run respond (task.run.run respond state).2 := by
  refine (Program.run_bind respond task.run (ExceptT.bindCont f) state).trans ?_
  rw [finished]
  rfl

theorem runIn_attempt (task : Task Failure Request Value α) (state : σ) :
    runIn respond (Task.attempt task) state =
      (.ok (runIn respond task state).1, (runIn respond task state).2) :=
  Program.run_bind respond task.run (fun result => .done (Except.ok result)) state

end Task

end CodeGraph
