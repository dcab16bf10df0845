namespace CodeGraph

/-- A computation with requests of a type, each with its type of replies. -/
inductive Program (Request : Type) (Reply : Request → Type) (α : Type) where
  | done (result : α)
  | ask (request : Request) (next : Reply request → Program Request Reply α)

namespace Program

variable {Request : Type} {Reply : Request → Type} {α β σ : Type}

/-- Goes on with another program where the first is done. -/
protected def bind (program : Program Request Reply α) (f : α → Program Request Reply β) :
    Program Request Reply β :=
  match program with
  | .done a => f a
  | .ask request next => .ask request fun reply => (next reply).bind f

instance : Monad (Program Request Reply) where
  pure := .done
  bind := .bind

/-- Runs a program in surroundings with a state. -/
def run (respond : (request : Request) → σ → Reply request × σ) :
    Program Request Reply α → σ → α × σ
  | .done a, state => (a, state)
  | .ask request next, state =>
    let (reply, state) := respond request state
    (next reply).run respond state

/-- Runs a program as part of another kind of computation, which answers its requests. -/
def interpret {m : Type → Type} [Monad m] (answer : (request : Request) → m (Reply request)) :
    Program Request Reply α → m α
  | .done a => pure a
  | .ask request next => answer request >>= fun reply => (next reply).interpret answer

end Program

/-- A program whose requests may fail, and which may end in a failure. -/
abbrev Task (Failure Request : Type) (Value : Request → Type) :=
  ExceptT Failure (Program Request fun request => Except Failure (Value request))

namespace Task

variable {Failure Request : Type} {Value : Request → Type} {α : Type}

/-- Puts one request. -/
def call (request : Request) : Task Failure Request Value (Value request) :=
  ExceptT.mk (.ask request .done)

/-- Goes on after a failure with what it gave. -/
def attempt (task : Task Failure Request Value α) :
    Task Failure Request Value (Except Failure α) :=
  ExceptT.mk (task.run.bind fun result => .done (.ok result))

end Task

end CodeGraph
