import Mathlib.Data.List.TakeWhile
import RequestScript.Text.Digits

namespace RequestScript

theorem isDigit_digitChar {n : Nat} (h : n < 10) : (digitChar n).isDigit = true := by
  have hall : ∀ m < 10, (digitChar m).isDigit = true := by decide
  exact hall n h

theorem digitValue_digitChar {n : Nat} (h : n < 10) : digitValue (digitChar n) = n := by
  have hall : ∀ m < 10, digitValue (digitChar m) = m := by decide
  exact hall n h

theorem naturalOf_append (digits : List Char) (c : Char) :
    naturalOf (digits ++ [c]) = naturalOf digits * 10 + digitValue c := by
  rw [naturalOf, List.foldl_append]
  rfl

theorem naturalOf_replicate_zero (n : Nat) : naturalOf (List.replicate n '0') = 0 := by
  induction n with
  | zero => rfl
  | succ n ih =>
    rw [List.replicate_succ', naturalOf_append, ih]
    rfl

theorem naturalOf_decimal (width n : Nat) : naturalOf (decimal width n) = n := by
  fun_induction decimal width n with
  | case1 width n h =>
    rw [naturalOf_append, naturalOf_replicate_zero, digitValue_digitChar h]
    omega
  | case2 width n h ih =>
    rw [naturalOf_append, ih, digitValue_digitChar (Nat.mod_lt n (by omega))]
    omega

theorem isDigit_of_mem_decimal {width n : Nat} {c : Char} (h : c ∈ decimal width n) :
    c.isDigit = true := by
  fun_induction decimal width n with
  | case1 width n hn =>
    rcases List.mem_append.mp h with h | h
    · rw [List.eq_of_mem_replicate h]
      rfl
    · rw [List.mem_singleton.mp h]
      exact isDigit_digitChar hn
  | case2 width n hn ih =>
    rcases List.mem_append.mp h with h | h
    · exact ih h
    · rw [List.mem_singleton.mp h]
      exact isDigit_digitChar (Nat.mod_lt n (by omega))

theorem decimal_ne_nil (width n : Nat) : decimal width n ≠ [] := by
  unfold decimal
  split <;> simp

theorem length_decimal {width n : Nat} (hw : 0 < width) (hn : n < Nat.pow 10 width) :
    (decimal width n).length = width := by
  fun_induction decimal width n with
  | case1 width n h =>
    simp only [List.length_append, List.length_replicate, List.length_singleton]
    omega
  | case2 width n h ih =>
    obtain ⟨above, rfl⟩ : ∃ above, width = above + 1 := ⟨width - 1, by omega⟩
    have ha : 0 < above := by
      rcases Nat.eq_zero_or_pos above with rfl | ha
      · exact absurd hn h
      · exact ha
    have hd : n / 10 < Nat.pow 10 above := by
      have hp : Nat.pow 10 (above + 1) = Nat.pow 10 above * 10 := rfl
      exact Nat.div_lt_of_lt_mul (by omega)
    rw [Nat.add_sub_cancel] at ih ⊢
    rw [List.length_append, ih ha hd, List.length_singleton]

theorem readNatural_append {most : Nat} {digits rest : List Char} (hn : digits ≠ [])
    (hd : ∀ c ∈ digits, c.isDigit = true) (hl : digits.length ≤ most)
    (hr : ∀ c ∈ rest.head?, c.isDigit = false) :
    readNatural most (digits ++ rest) = some (naturalOf digits, rest) := by
  have ht : (digits ++ rest).takeWhile Char.isDigit = digits := by
    rw [List.takeWhile_append_of_pos hd]
    cases rest with
    | nil => simp
    | cons c cs => rw [List.takeWhile_cons_of_neg (by simp [hr c rfl]), List.append_nil]
  unfold readNatural
  rw [ht, List.take_of_length_le hl]
  obtain ⟨c, cs, rfl⟩ := List.exists_cons_of_ne_nil hn
  simp

/-- A number is read back, if a reader takes all its digits and nothing else follows them. -/
theorem readNatural_decimal {most width n : Nat} {rest : List Char}
    (hl : (decimal width n).length ≤ most) (hr : ∀ c ∈ rest.head?, c.isDigit = false) :
    readNatural most (decimal width n ++ rest) = some (n, rest) := by
  have h := readNatural_append (decimal_ne_nil width n) (fun c hc => isDigit_of_mem_decimal hc) hl hr
  rwa [naturalOf_decimal] at h

end RequestScript
