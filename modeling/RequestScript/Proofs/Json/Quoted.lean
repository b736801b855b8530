import RequestScript.Json.Printer
import RequestScript.Json.Symbol

namespace RequestScript

theorem hexValue?_hexDigit {n : Nat} (h : n < 16) : hexValue? (hexDigit n) = some n := by
  have all : ∀ m < 16, hexValue? (hexDigit m) = some m := by decide
  exact all n h

namespace Json

/-- The units that have been read with one more in front of them. -/
def consUnit (n : Nat) (read : Option (Units × Source)) : Option (Units × Source) :=
  read.map fun (units, after) => (some n :: units, after)

theorem unitOfDigits?_hexDigit {n : Nat} (h : n < 0x20) :
    unitOfDigits? (some '0') (some '0') (some (hexDigit (n / 16))) (some (hexDigit (n % 16))) =
      some n := by
  have h₀ : hexValue? '0' = some 0 := by decide
  have hn : ((0 * 16 + 0) * 16 + n / 16) * 16 + n % 16 = n := by omega
  simp only [unitOfDigits?, Option.bind_eq_bind, Option.bind_some, h₀,
    hexValue?_hexDigit (show n / 16 < 16 by omega), hexValue?_hexDigit (show n % 16 < 16 by omega),
    hn]

theorem readUnits_unicode {a b c d : Option Char} {n : Nat} (h : unitOfDigits? a b c d = some n)
    (rest : Source) :
    readUnits (some '\\' :: some 'u' :: a :: b :: c :: d :: rest) = consUnit n (readUnits rest) := by
  rw [readUnits, h]
  unfold consUnit
  cases readUnits rest <;> rfl

theorem readUnits_escape {c char : Char} (hu : c ≠ 'u') (hc : escaped? c = some char)
    (rest : Source) :
    readUnits (some '\\' :: some c :: rest) = consUnit char.toNat (readUnits rest) := by
  rw [readUnits, hc]
  · unfold consUnit
    cases readUnits rest <;> rfl
  · rintro _ _ _ _ _ _ rfl
    exact hu rfl

theorem readUnits_plain {c : Char} (hq : c ≠ '"') (hb : c ≠ '\\') (hc : ¬ c.toNat < 0x20)
    (rest : Source) : readUnits (some c :: rest) = consUnit c.toNat (readUnits rest) := by
  rw [readUnits]
  · rw [if_neg (not_or.mpr ⟨hc, hb⟩)]
    rfl
  · exact hq
  · exact fun _ _ _ _ _ _ h => hb h
  · exact fun _ _ _ h => hb h

/-- The form of a character inside a string is read as its code point. -/
theorem readUnits_escapeChar (c : Char) (rest : Source) :
    readUnits ((escapeChar c).map some ++ rest) = consUnit c.toNat (readUnits rest) := by
  unfold escapeChar
  split
  next h => subst h; exact readUnits_escape (by decide) (by decide) rest
  split
  next h => subst h; exact readUnits_escape (by decide) (by decide) rest
  split
  next h => subst h; exact readUnits_escape (by decide) (by decide) rest
  split
  next h => subst h; exact readUnits_escape (by decide) (by decide) rest
  split
  next h => subst h; exact readUnits_escape (by decide) (by decide) rest
  split
  next h => subst h; exact readUnits_escape (by decide) (by decide) rest
  split
  next h => subst h; exact readUnits_escape (by decide) (by decide) rest
  split
  next h => exact readUnits_unicode (unitOfDigits?_hexDigit h) rest
  next hq hb _ _ _ _ _ hc => exact readUnits_plain hq hb hc rest

theorem readUnits_flatMap_escapeChar (text : List Char) (rest : Source) :
    readUnits ((text.flatMap escapeChar).map some ++ some '"' :: rest) =
      some (text.map fun c => some c.toNat, rest) := by
  induction text with
  | nil =>
    rw [List.flatMap_nil, List.map_nil, List.nil_append, readUnits]
    rfl
  | cons c cs ih =>
    rw [List.flatMap_cons, List.map_append, List.append_assoc, readUnits_escapeChar, ih]
    rfl

/-- The code points of a text are no surrogates, so they are read one by one. -/
theorem textOfUnits?_map_toNat (text : List Char) :
    textOfUnits? (text.map fun c => some c.toNat) = some text := by
  induction text with
  | nil => rfl
  | cons c cs ih =>
    have hv : c.toNat.isValidChar := c.valid
    unfold Nat.isValidChar at hv
    have hh : isHighSurrogate c.toNat = false := by
      simp only [isHighSurrogate, Bool.and_eq_false_iff, decide_eq_false_iff_not]
      omega
    have hl : isLowSurrogate c.toNat = false := by
      simp only [isLowSurrogate, Bool.and_eq_false_iff, decide_eq_false_iff_not]
      omega
    rw [List.map_cons, textOfUnits?.eq_def]
    simp only [hh, hl, Bool.false_eq_true, if_false, ih, Option.map_some, Char.ofNat_toNat]

/-- A text that has been written as a JSON string is read back, whatever follows it. -/
theorem read?_quotedString (text : List Char) (rest : Source) :
    Symbol.read? ((quotedString text).map some ++ rest) =
      some (.string (some (String.ofList text)), rest) := by
  have hs : (quotedString text).map some ++ rest =
      some '"' :: ((text.flatMap escapeChar).map some ++ some '"' :: rest) := by
    simp [quotedString]
  simp only [hs, Symbol.read?, readUnits_flatMap_escapeChar, Option.map_some,
    textOfUnits?_map_toNat]

end Json

end RequestScript
