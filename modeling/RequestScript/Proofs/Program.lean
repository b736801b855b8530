import RequestScript.Program

namespace RequestScript.Program

variable {Request : Type} {Answer : Request → Type} {α β σ τ : Type}

/-- The value of a program that has nothing more to ask. -/
def value? : Program Request Answer α → Option α
  | done value => some value
  | ask _ _ => none

/-- The requests of a program in order, each with what has become of its surroundings. -/
def trace (respond : σ → (request : Request) → σ × Answer request) (state : σ) :
    Program Request Answer α → List (Request × σ)
  | done _ => []
  | ask request next =>
    let (state, answer) := respond state request
    (request, state) :: (next answer).trace respond state

theorem trace_bind (respond : σ → (request : Request) → σ × Answer request) (state : σ)
    (program : Program Request Answer α) (next : α → Program Request Answer β) :
    (program.bind next).trace respond state =
      program.trace respond state ++
        (next (program.run respond state).2).trace respond (program.run respond state).1 := by
  induction program generalizing state with
  | done value => rfl
  | ask request rest ih => simp only [bind, trace, run, ih, List.cons_append]

/-- Surroundings that answer alike and stay alike give a program the same value. -/
theorem run_map (respond : σ → (request : Request) → σ × Answer request)
    (respond' : τ → (request : Request) → τ × Answer request) (f : σ → τ)
    (h : ∀ state request, respond' (f state) request =
      (f (respond state request).1, (respond state request).2))
    (state : σ) (program : Program Request Answer α) :
    program.run respond' (f state) =
      (f (program.run respond state).1, (program.run respond state).2) := by
  induction program generalizing state with
  | done value => rfl
  | ask request rest ih => simp only [run, h, ih]

/-- Whatever a program is answered, its value has a property. -/
def Yields (P : α → Prop) : Program Request Answer α → Prop
  | done value => P value
  | ask _ next => ∀ answer, (next answer).Yields P

theorem Yields.bind {P : α → Prop} {Q : β → Prop} {program : Program Request Answer α}
    {next : α → Program Request Answer β} (h : program.Yields P)
    (hn : ∀ value, P value → (next value).Yields Q) : (program.bind next).Yields Q := by
  induction program with
  | done value => exact hn value h
  | ask request rest ih => exact fun answer => ih answer (h answer)

theorem yields_true (program : Program Request Answer α) : program.Yields fun _ => True := by
  induction program with
  | done value => trivial
  | ask request rest ih => exact ih

/-- What holds of the value of any continuation holds after every program. -/
theorem yields_bind {Q : β → Prop} (program : Program Request Answer α)
    {next : α → Program Request Answer β} (h : ∀ value, (next value).Yields Q) :
    (program.bind next).Yields Q :=
  program.yields_true.bind fun value _ => h value

theorem Yields.run {P : α → Prop} {program : Program Request Answer α} (h : program.Yields P)
    (respond : σ → (request : Request) → σ × Answer request) (state : σ) :
    P (program.run respond state).2 := by
  induction program generalizing state with
  | done value => exact h
  | ask request rest ih => exact ih _ (h _) _

end RequestScript.Program
