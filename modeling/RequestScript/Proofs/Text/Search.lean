import Mathlib.Data.List.TakeWhile

namespace RequestScript

theorem takeWhile_append_stop {α : Type} {p : α → Bool} {stop : α} (hs : p stop = false)
    (text behind : List α) : (text ++ stop :: behind).takeWhile p = text.takeWhile p := by
  induction text with
  | nil => simp [hs]
  | cons c cs ih => simp only [List.cons_append, List.takeWhile_cons, ih]

theorem dropWhile_append_stop {α : Type} {p : α → Bool} {stop : α} (hs : p stop = false)
    (text behind : List α) :
    (text ++ stop :: behind).dropWhile p = text.dropWhile p ++ stop :: behind := by
  induction text with
  | nil => simp [hs]
  | cons c cs ih =>
    simp only [List.cons_append, List.dropWhile_cons, ih]
    split
    · rfl
    · rfl

/-- A search that ends inside a text does not see what stands behind the text. -/
theorem takeWhile_append_of_dropWhile {α : Type} {p : α → Bool} {text : List α}
    (h : text.dropWhile p ≠ []) (behind : List α) :
    (text ++ behind).takeWhile p = text.takeWhile p ∧
      (text ++ behind).dropWhile p = text.dropWhile p ++ behind := by
  induction text with
  | nil => exact absurd rfl h
  | cons c cs ih =>
    rw [List.dropWhile_cons] at h
    simp only [List.cons_append, List.takeWhile_cons, List.dropWhile_cons]
    split at h
    next hc =>
      obtain ⟨ht, hd⟩ := ih h
      rw [if_pos hc, if_pos hc, if_pos hc, if_pos hc, ht, hd]
      exact ⟨rfl, rfl⟩
    next hc =>
      rw [if_neg hc, if_neg hc, if_neg hc, if_neg hc]
      exact ⟨rfl, rfl⟩

theorem search_of_not_mem {c : Char} {text : List Char} (h : c ∉ text) :
    text.takeWhile (· != c) = text ∧ text.dropWhile (· != c) = [] := by
  have hp : ∀ d ∈ text, (d != c) = true := fun d hd => by simpa using fun he : d = c => h (he ▸ hd)
  exact ⟨List.takeWhile_eq_self_iff.mpr hp, List.dropWhile_eq_nil_iff.mpr hp⟩

theorem search_append {c : Char} {text : List Char} (h : c ∉ text) (behind : List Char) :
    (text ++ c :: behind).takeWhile (· != c) = text ∧
      (text ++ c :: behind).dropWhile (· != c) = c :: behind := by
  have hc : (c != c) = false := bne_self_eq_false c
  obtain ⟨ht, hd⟩ := search_of_not_mem h
  have hat := takeWhile_append_stop (p := (· != c)) hc text behind
  have hbehind := dropWhile_append_stop (p := (· != c)) hc text behind
  exact ⟨hat.trans ht, by rw [hbehind, hd, List.nil_append]⟩

end RequestScript
