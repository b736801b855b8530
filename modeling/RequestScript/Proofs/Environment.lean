import RequestScript.Environment

namespace RequestScript.Environment

variable {α : Type} {env : Environment α} {name : String}

theorem contains_eq_isSome_find? (env : Environment α) (name : String) :
    env.contains name = (env.find? name).isSome := by
  unfold contains find?
  generalize env.scopes = scopes
  induction scopes with
  | nil => rfl
  | cons scope rest ih =>
    rw [List.any_cons, List.findSome?_cons, ih]
    unfold Bindings.contains
    cases scope.find? name with
    | none => rfl
    | some value => rfl

theorem resolve_eq_elim (env : Environment α) (name : String) :
    env.resolve name = (env.find? name).elim (.error ⟨name⟩) .ok := by
  unfold resolve
  cases env.find? name <;> rfl

theorem resolve_of_find? {value : α} (h : env.find? name = some value) :
    env.resolve name = .ok value := by
  rw [resolve, h]

theorem resolve_of_not_contains (h : env.contains name = false) :
    env.resolve name = .error ⟨name⟩ := by
  rw [contains_eq_isSome_find?, Option.isSome_eq_false_iff, Option.isNone_iff_eq_none] at h
  rw [resolve, h]

theorem exists_resolve_of_contains (h : env.contains name = true) :
    ∃ value, env.resolve name = .ok value := by
  rw [contains_eq_isSome_find?] at h
  obtain ⟨value, hv⟩ := Option.isSome_iff_exists.mp h
  exact ⟨value, resolve_of_find? hv⟩

/-- A name is bound around a lookup if and only if the lookup gives a value. -/
theorem contains_iff : env.contains name = true ↔ ∃ value, env.resolve name = .ok value := by
  refine ⟨exists_resolve_of_contains, fun ⟨value, hv⟩ => ?_⟩
  cases hc : env.contains name with
  | true => rfl
  | false =>
    rw [resolve_of_not_contains hc] at hv
    cases hv

/-- A lookup that fails tells the name that was looked up. -/
theorem eq_of_resolve_eq_error {error : UndefinedName} (h : env.resolve name = .error error) :
    error = ⟨name⟩ := by
  cases hc : env.contains name with
  | true =>
    obtain ⟨value, hv⟩ := exists_resolve_of_contains hc
    rw [hv] at h
    cases h
  | false =>
    rw [resolve_of_not_contains hc] at h
    exact (Except.error.inj h).symm

theorem find?_eq_of_resolve_eq {other : Environment α} (h : other.resolve name = env.resolve name) :
    other.find? name = env.find? name := by
  cases hf : env.find? name with
  | some value =>
    rw [resolve_of_find? hf] at h
    unfold resolve at h
    split at h
    next found hv => rw [hv, Except.ok.inj h]
    next => cases h
  | none =>
    rw [show env.resolve name = .error ⟨name⟩ by rw [resolve, hf]] at h
    unfold resolve at h
    split at h
    next => cases h
    next hv => exact hv

end RequestScript.Environment
