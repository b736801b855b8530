namespace RequestScript

/-- A computation that asks its surroundings for answers and goes on with them. -/
inductive Program (Request : Type) (Answer : Request → Type) (α : Type) where
  | done (value : α)
  | ask (request : Request) (next : Answer request → Program Request Answer α)

namespace Program

variable {Request : Type} {Answer : Request → Type} {α β γ σ : Type}

def bind (program : Program Request Answer α) (next : α → Program Request Answer β) :
    Program Request Answer β :=
  match program with
  | done value => next value
  | ask request rest => ask request fun answer => (rest answer).bind next

instance : Monad (Program Request Answer) where
  pure := done
  bind := bind

/-- The value of a program and what becomes of surroundings that answer from a state. -/
def run (respond : σ → (request : Request) → σ × Answer request) (state : σ) :
    Program Request Answer α → σ × α
  | done value => (state, value)
  | ask request next =>
    let (state, answer) := respond state request
    (next answer).run respond state

/-- A program whose requests are answered by actions. -/
def perform {m : Type → Type} [Monad m] (respond : (request : Request) → m (Answer request)) :
    Program Request Answer α → m α
  | done value => pure value
  | ask request next => do (next (← respond request)).perform respond

theorem bind_assoc (program : Program Request Answer α) (first : α → Program Request Answer β)
    (second : β → Program Request Answer γ) :
    (program.bind first).bind second = program.bind fun value => (first value).bind second := by
  induction program with
  | done value => rfl
  | ask request rest ih => simp only [bind, ih]

theorem run_bind (respond : σ → (request : Request) → σ × Answer request) (state : σ)
    (program : Program Request Answer α) (next : α → Program Request Answer β) :
    (program.bind next).run respond state =
      (next (program.run respond state).2).run respond (program.run respond state).1 := by
  induction program generalizing state with
  | done value => rfl
  | ask request rest ih => simp only [bind, run, ih]

end Program

end RequestScript
