import RequestScript.Proofs.Text.Search
import RequestScript.Text.Digits
import RequestScript.Text.Quoted

namespace RequestScript

/-- The number that hexadecimal digits stand for. -/
def hexNumber (digits : List Char) : Nat :=
  digits.foldl (fun n c => n * 16 + (hexValue? c).getD 0) 0

theorem hexValue?_digitChar {n : Nat} (h : n < 16) : hexValue? n.digitChar = some n := by
  have all : ∀ m < 16, hexValue? m.digitChar = some m := by decide
  exact all n h

theorem hexNumber_append (digits : List Char) {n : Nat} (h : n < 16) :
    hexNumber (digits ++ [n.digitChar]) = hexNumber digits * 16 + n := by
  rw [hexNumber, List.foldl_append, List.foldl_cons, List.foldl_nil, hexValue?_digitChar h,
    Option.getD_some, ← hexNumber]

theorem hexNumber_toDigits (n : Nat) : hexNumber (Nat.toDigits 16 n) = n := by
  induction n using Nat.strongRecOn with
  | ind n ih =>
    by_cases hn : n < 16
    · rw [Nat.toDigits_of_lt_base hn, ← List.nil_append [_], hexNumber_append [] hn]
      exact Nat.zero_add n
    · have hle : 16 ≤ n := Nat.le_of_not_lt hn
      rw [Nat.toDigits_of_base_le (by decide) hle, hexNumber_append _ (Nat.mod_lt n (by decide)),
        ih (n / 16) (by omega)]
      omega

theorem isSome_hexValue?_of_mem_toDigits {n : Nat} {c : Char} (h : c ∈ Nat.toDigits 16 n) :
    (hexValue? c).isSome = true := by
  induction n using Nat.strongRecOn with
  | ind n ih =>
    by_cases hn : n < 16
    · rw [Nat.toDigits_of_lt_base hn, List.mem_singleton] at h
      rw [h, hexValue?_digitChar hn]
      rfl
    · rw [Nat.toDigits_of_base_le (by decide) (Nat.le_of_not_lt hn)] at h
      rcases List.mem_append.mp h with h | h
      · exact ih (n / 16) (by omega) h
      · rw [List.mem_singleton.mp h, hexValue?_digitChar (Nat.mod_lt n (by decide))]
        rfl

/-- What the next character of a quoted text is, and what follows it; nothing at the end. -/
def nextQuoted? : List Char → Option (Char × List Char)
  | '\\' :: '0' :: rest => some ('\x00', rest)
  | '\\' :: 't' :: rest => some ('\t', rest)
  | '\\' :: 'r' :: rest => some ('\r', rest)
  | '\\' :: 'n' :: rest => some ('\n', rest)
  | '\\' :: '\\' :: rest => some ('\\', rest)
  | '\\' :: '"' :: rest => some ('"', rest)
  | '\\' :: 'u' :: '\x7b' :: rest =>
    some (Char.ofNat (hexNumber (rest.takeWhile (· != '\x7d'))),
      (rest.dropWhile (· != '\x7d')).tail)
  | c :: rest => if c = '"' ∨ c = '\\' then none else some (c, rest)
  | [] => none

theorem nextQuoted?_escapeByCode (c : Char) (rest : List Char) :
    nextQuoted? (escapeByCode c ++ rest) = some (c, rest) := by
  have hn : '\x7d' ∉ Nat.toDigits 16 c.toNat := fun h => by
    have hs := isSome_hexValue?_of_mem_toDigits h
    revert hs
    decide
  have hl : escapeByCode c ++ rest =
      '\\' :: 'u' :: '\x7b' :: (Nat.toDigits 16 c.toNat ++ '\x7d' :: rest) := by
    simp [escapeByCode]
  obtain ⟨ht, hd⟩ := search_append hn rest
  rw [hl, nextQuoted?, ht, hd, hexNumber_toDigits, Char.ofNat_toNat]
  rfl

theorem nextQuoted?_plain {c : Char} (hb : c ≠ '\\') (hq : c ≠ '"') (rest : List Char) :
    nextQuoted? (c :: rest) = some (c, rest) := by
  rw [nextQuoted?]
  · exact if_neg (not_or.mpr ⟨hq, hb⟩)
  all_goals exact fun _ h => absurd h hb

/-- A character that ends a line. -/
def IsLineBreak (c : Char) : Prop :=
  c = '\n' ∨ c = '\r'

instance : DecidablePred IsLineBreak :=
  fun c => inferInstanceAs (Decidable (c = '\n' ∨ c = '\r'))

/-- Inside a quoted text a character has a letter of its own, stands as its code, or as itself. -/
theorem escapeQuoted_cases (c : Char) :
    (∃ letter, escapeQuoted c = ['\\', letter] ∧ ¬ IsLineBreak letter ∧
      ∀ rest, nextQuoted? ('\\' :: letter :: rest) = some (c, rest)) ∨
    escapeQuoted c = escapeByCode c ∨
    (escapeQuoted c = [c] ∧ c ≠ '\\' ∧ c ≠ '"' ∧ ¬ IsLineBreak c) := by
  unfold escapeQuoted
  split
  next h => exact Or.inl ⟨'0', rfl, by decide, fun _ => by rw [h]; rfl⟩
  split
  next h => exact Or.inl ⟨'t', rfl, by decide, fun _ => by rw [h]; rfl⟩
  split
  next h => exact Or.inl ⟨'r', rfl, by decide, fun _ => by rw [h]; rfl⟩
  split
  next h => exact Or.inl ⟨'n', rfl, by decide, fun _ => by rw [h]; rfl⟩
  split
  next h => exact Or.inl ⟨'\\', rfl, by decide, fun _ => by rw [h]; rfl⟩
  split
  next h => exact Or.inl ⟨'"', rfl, by decide, fun _ => by rw [h]; rfl⟩
  split
  next => exact Or.inr (Or.inl rfl)
  next hr hn hb hq _ => exact Or.inr (Or.inr ⟨rfl, hb, hq, not_or.mpr ⟨hn, hr⟩⟩)

/-- The form of a character inside a quoted text is read as this character, whatever follows. -/
theorem nextQuoted?_escapeQuoted (c : Char) (rest : List Char) :
    nextQuoted? (escapeQuoted c ++ rest) = some (c, rest) := by
  rcases escapeQuoted_cases c with ⟨letter, hc, -, hread⟩ | hc | ⟨hc, hb, hq, -⟩
  · rw [hc]
    exact hread rest
  · rw [hc, nextQuoted?_escapeByCode]
  · rw [hc]
    exact nextQuoted?_plain hb hq rest

/-- Two quoted texts that begin some text are one and the same. -/
theorem eq_of_flatMap_escapeQuoted {a b : List Char} {rest behind : List Char}
    (h : a.flatMap escapeQuoted ++ '"' :: rest = b.flatMap escapeQuoted ++ '"' :: behind) :
    a = b := by
  have hend (rest : List Char) : nextQuoted? ('"' :: rest) = none := rfl
  induction a generalizing b with
  | nil =>
    cases b with
    | nil => rfl
    | cons d ds =>
      have hn := congrArg nextQuoted? h
      rw [List.flatMap_nil, List.nil_append, hend, List.flatMap_cons, List.append_assoc,
        nextQuoted?_escapeQuoted] at hn
      cases hn
  | cons c cs ih =>
    rw [List.flatMap_cons, List.append_assoc] at h
    have hn := congrArg nextQuoted? h
    rw [nextQuoted?_escapeQuoted] at hn
    cases b with
    | nil =>
      rw [List.flatMap_nil, List.nil_append, hend] at hn
      cases hn
    | cons d ds =>
      rw [List.flatMap_cons, List.append_assoc, nextQuoted?_escapeQuoted] at hn
      obtain ⟨rfl, hr⟩ := Prod.mk.inj (Option.some.inj hn)
      rw [ih hr]

theorem quoted_injective {a b : List Char} (h : quoted a = quoted b) : a = b :=
  eq_of_flatMap_escapeQuoted (List.tail_eq_of_cons_eq h)

theorem not_isLineBreak_of_mem_escapeByCode {c d : Char} (h : d ∈ escapeByCode c) :
    ¬ IsLineBreak d := by
  have hfixed {e : Char} (h : e ∈ ['\\', 'u', '\x7b', '\x7d']) : ¬ IsLineBreak e := by
    rintro (rfl | rfl) <;> revert h <;> decide
  rcases List.mem_append.mp h with h | h
  · rcases List.mem_append.mp h with h | h
    · exact hfixed (List.mem_append_left ['\x7d'] h)
    · have hs := isSome_hexValue?_of_mem_toDigits h
      rintro (rfl | rfl) <;> revert hs <;> decide
  · exact hfixed (List.mem_append_right ['\\', 'u', '\x7b'] h)

theorem not_isLineBreak_of_mem_escapeQuoted {c d : Char} (h : d ∈ escapeQuoted c) :
    ¬ IsLineBreak d := by
  rcases escapeQuoted_cases c with ⟨letter, hc, hl, -⟩ | hc | ⟨hc, -, -, hn⟩ <;> rw [hc] at h
  · rcases List.mem_cons.mp h with rfl | h
    · decide
    · rwa [List.mem_singleton.mp h]
  · exact not_isLineBreak_of_mem_escapeByCode h
  · rwa [List.mem_singleton.mp h]

/-- A quoted text stands on one line. -/
theorem not_isLineBreak_of_mem_quoted {text : List Char} {d : Char} (h : d ∈ quoted text) :
    ¬ IsLineBreak d := by
  have hmark : ¬ IsLineBreak '"' := by decide
  rcases List.mem_cons.mp h with rfl | h
  · exact hmark
  rcases List.mem_append.mp h with h | h
  · obtain ⟨c, -, hc⟩ := List.mem_flatMap.mp h
    exact not_isLineBreak_of_mem_escapeQuoted hc
  · rwa [List.mem_singleton.mp h]

end RequestScript
