import RequestScript.Command

namespace RequestScript.Command

theorem invalidToken?_append {front : List Token} {last : Token}
    (h : ∀ token ∈ front, token.isTerminal = false) :
    invalidToken? (front ++ [last]) = if last.kind = .invalid then some last else none := by
  have hf : invalidToken? front = none := by
    refine List.find?_eq_none.mpr fun token hm hk => ?_
    have ht := h token hm
    rw [Token.isTerminal, eq_of_beq hk] at ht
    cases ht
  unfold invalidToken? at hf ⊢
  rw [List.find?_append, hf, Option.none_or, List.find?_cons]
  by_cases hk : last.kind = .invalid
  · rw [if_pos hk, hk]
    rfl
  · rw [if_neg hk, beq_false_of_ne hk]
    rfl

theorem message_invalidToken (file : String) (position : Position) :
    (Failure.invalidToken file position).message =
      placeText file position ++ ": invalid token" := rfl

theorem output_outcome (report : Report) : report.outcome.output = report.output := by
  unfold Report.outcome
  split <;> rfl

theorem code_outcome_eq_zero_iff (report : Report) :
    report.outcome.code = 0 ↔ report.failure? = none := by
  unfold Report.outcome
  split
  next h => simp [h]
  next failure h => simp [h]

theorem errors_outcome_of_failure {report : Report} {failure : Failure}
    (h : report.failure? = some failure) :
    report.outcome.errors = report.complaints ++ "reqdef: " ++ failure.message ++ "\n" := by
  unfold Report.outcome
  rw [h]

theorem errors_outcome_of_none {report : Report} (h : report.failure? = none) :
    report.outcome.errors = report.complaints := by
  unfold Report.outcome
  rw [h]

section

variable {σ : Type} {respond : σ → (request : HostRequest) → σ × request.Answer}
  {start opened later last : σ} {arguments rest : List String} {config : Option String}
  {file source : String} {settings : Settings}

theorem run_tokensOf
    (h : (HostProgram.readText (.ofString file)).run respond opened = (later, .ok source)) :
    (tokensOf settings file).run respond opened =
      (later, .ok (tokenize settings.reserved source)) := by
  show ((HostProgram.readText (.ofString file)).bind _).run respond opened = _
  rw [Program.run_bind, h]
  rfl

theorem run_of_report {task : Task} {report : Report} {tag : List Char}
    (hc : takeSettings? arguments = some (config, rest)) (ht : Task.ofArguments? rest = some task)
    (hs : (settingsFrom config).run respond start = (opened, .ok settings))
    (hr : (task.report settings tag).run respond opened = (last, report)) :
    (run tag arguments).run respond start = (last, report.outcome) := by
  unfold run
  rw [hc]
  show ((settingsFrom config).bind _).run respond start = _
  rw [Program.run_bind, hs]
  dsimp only
  rw [ht]
  show ((task.report settings tag).bind _).run respond opened = _
  rw [Program.run_bind, hr]
  rfl

end

end RequestScript.Command
