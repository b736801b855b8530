import RequestScript.Instant.Printer
import RequestScript.Instant.Reader
import RequestScript.Proofs.Instant.Calendar
import RequestScript.Proofs.Text.Decimal

namespace RequestScript

theorem isWhiteSpace_of_isDigit {c : Char} (h : c.isDigit = true) : isWhiteSpace c = false := by
  have hr : 48 ≤ c.toNat ∧ c.toNat ≤ 57 := by
    simp only [Char.isDigit, Bool.and_eq_true, decide_eq_true_eq, ge_iff_le,
      UInt32.le_iff_toNat_le] at h
    exact h
  simp only [isWhiteSpace, whiteSpaceRanges, CodeRanges.contains]
  simp
  omega

theorem trimStart_cons {c : Char} {cs : List Char} (h : isWhiteSpace c = false) :
    trimStart (c :: cs) = c :: cs := by
  simp [trimStart, h]

theorem exists_decimal_eq_cons (width n : Nat) :
    ∃ c cs, decimal width n = c :: cs ∧ c.isDigit = true := by
  obtain ⟨c, cs, h⟩ := List.exists_cons_of_ne_nil (decimal_ne_nil width n)
  have hc : c ∈ decimal width n := by
    rw [h]
    exact List.mem_cons_self
  exact ⟨c, cs, h, isDigit_of_mem_decimal hc⟩

theorem trimStart_decimal (width n : Nat) (rest : List Char) :
    trimStart (decimal width n ++ rest) = decimal width n ++ rest := by
  obtain ⟨c, cs, h, hc⟩ := exists_decimal_eq_cons width n
  rw [h, List.cons_append, trimStart_cons (isWhiteSpace_of_isDigit hc)]

namespace Instant

theorem readField_decimal {n : Nat} {rest : List Char} (hn : n < 100)
    (hr : ∀ c ∈ rest.head?, c.isDigit = false) :
    readField (decimal 2 n ++ rest) = some (n, rest) := by
  rw [readField, trimStart_decimal]
  refine readNatural_decimal ?_ hr
  rw [length_decimal (by omega) (show n < 100 from hn)]

theorem readMark_cons {mark : Char} {rest : List Char} (h : isWhiteSpace mark = false) :
    readMark mark (mark :: rest) = some rest := by
  rw [readMark, trimStart_cons h]
  exact if_pos rfl

theorem readYear_digit {c : Char} {cs : List Char} (hc : c.isDigit = true) :
    readYear (c :: cs) = (readNatural 4 (c :: cs)).map fun (n, after) => ((n : Int), after) := by
  unfold readYear
  rw [trimStart_cons (isWhiteSpace_of_isDigit hc)]
  split
  next h =>
    obtain ⟨rfl, -⟩ := List.cons.inj h
    cases hc
  next h =>
    obtain ⟨rfl, -⟩ := List.cons.inj h
    cases hc
  next => rfl

theorem readYear_yearText (year : Int) {rest : List Char}
    (hr : ∀ c ∈ rest.head?, c.isDigit = false) :
    readYear (yearText year ++ rest) = some (year, rest) := by
  have hl (width n : Nat) : (decimal width n).length ≤ (decimal width n ++ rest).length := by
    rw [List.length_append]
    omega
  unfold yearText
  split
  next hy =>
    rw [List.cons_append, readYear, trimStart_cons (by decide)]
    simp only [readNatural_decimal (hl 4 year.natAbs) hr, Option.map_some]
    rw [show -(year.natAbs : Int) = year by omega]
  split
  next hy hs =>
    have hn : year.natAbs < 10000 := by omega
    have hw : (decimal 4 year.natAbs).length = 4 := length_decimal (by omega) hn
    have hread := readNatural_decimal (Nat.le_of_eq hw) hr
    obtain ⟨c, cs, hd, hc⟩ := exists_decimal_eq_cons 4 year.natAbs
    rw [hd, List.cons_append] at hread ⊢
    simp only [readYear_digit hc, hread, Option.map_some]
    rw [show (year.natAbs : Int) = year by omega]
  next hy hs =>
    rw [List.cons_append, readYear, trimStart_cons (by decide)]
    simp only [readNatural_decimal (hl 4 year.natAbs) hr, Option.map_some]
    rw [show (year.natAbs : Int) = year by omega]

/-- The date of a day is read back, in front of what is no digit. -/
theorem readDate_dateText (days : Int) {rest : List Char}
    (hr : ∀ c ∈ rest.head?, c.isDigit = false) :
    readDate (dateText (CalendarDate.ofDays days) ++ rest) =
      some (CalendarDate.ofDays days, rest) := by
  obtain ⟨hm₀, hm₁, hd₀, hd₁⟩ := CalendarDate.ofDays_bounds days
  have he : (CalendarDate.ofDays days).exists? = true := by
    rw [CalendarDate.exists?, CalendarDate.toDays_ofDays, beq_self_eq_true]
  generalize CalendarDate.ofDays days = date at hm₀ hm₁ hd₀ hd₁ he
  obtain ⟨year, month, day⟩ := date
  dsimp only at hm₀ hm₁ hd₀ hd₁
  have hm : readField (decimal 2 month.natAbs ++ '-' :: (decimal 2 day.natAbs ++ rest)) =
      some (month.natAbs, '-' :: (decimal 2 day.natAbs ++ rest)) :=
    readField_decimal (by omega) (by simp)
  have hd : readField (decimal 2 day.natAbs ++ rest) = some (day.natAbs, rest) :=
    readField_decimal (by omega) hr
  have hy : readYear (yearText year ++ '-' :: (decimal 2 month.natAbs ++
      '-' :: (decimal 2 day.natAbs ++ rest))) = some (year, '-' :: (decimal 2 month.natAbs ++
        '-' :: (decimal 2 day.natAbs ++ rest))) := readYear_yearText year (by simp)
  have hk (text : List Char) : readMark '-' ('-' :: text) = some text := readMark_cons (by decide)
  have hmonth : (month.natAbs : Int) = month := by omega
  have hday : (day.natAbs : Int) = day := by omega
  simp only [dateText, List.append_assoc, List.cons_append]
  simp only [readDate, hy, hm, hd, hk, Option.bind_eq_bind, Option.bind_some, hmonth, hday, he,
    if_true]

theorem readFraction_decimal {width n : Nat} (hw₀ : 0 < width) (hw₁ : width ≤ 9)
    (hn : n < Nat.pow 10 width) :
    readFraction ('.' :: (decimal width n ++ ['Z'])) = some (n * Nat.pow 10 (9 - width), ['Z']) := by
  have hl := length_decimal hw₀ hn
  have hr : readNatural 9 (decimal width n ++ ['Z']) = some (n, ['Z']) :=
    readNatural_decimal (by omega) (by simp)
  have hs : (decimal width n ++ ['Z']).length - ['Z'].length = width := by
    rw [List.length_append, hl, Nat.add_sub_cancel]
  simp only [readFraction, hr, Option.bind_eq_bind, Option.bind_some, hs]
  rfl

theorem readFraction_fractionText {nanos : Nat} (h : nanos < 1000000000) :
    readFraction (fractionText nanos ++ ['Z']) = some (nanos, ['Z']) := by
  unfold fractionText
  split
  next h₀ =>
    rw [h₀]
    rfl
  split
  next h₀ h₁ =>
    have hn : nanos / 1000000 < 1000 := by omega
    have hv : nanos / 1000000 * 1000000 = nanos := by omega
    rw [List.cons_append, readFraction_decimal (by omega) (by omega) hn]
    exact congrArg (fun n => some (n, ['Z'])) hv
  split
  next h₀ h₁ h₂ =>
    have hn : nanos / 1000 < 1000000 := by omega
    have hv : nanos / 1000 * 1000 = nanos := by omega
    rw [List.cons_append, readFraction_decimal (by omega) (by omega) hn]
    exact congrArg (fun n => some (n, ['Z'])) hv
  next h₀ h₁ h₂ =>
    rw [List.cons_append, readFraction_decimal (by omega) (by omega) h]
    exact congrArg (fun n => some (n, ['Z'])) (Nat.mul_one nanos)

theorem head?_fractionText (nanos : Nat) :
    ∀ c ∈ (fractionText nanos ++ ['Z']).head?, c.isDigit = false := by
  unfold fractionText
  split
  · simp
  split
  · simp
  split <;> simp

/-- A time of day is read back, also in a leap second. -/
theorem readTime_timeText {second nanos : Nat} (hs : second < 86400)
    (hn : nanos < 1000000000 ∨ (nanos < 2000000000 ∧ second % 60 = 59)) :
    readTime (timeText second nanos ++ ['Z']) = some ((second, nanos), ['Z']) := by
  have hf : readFraction (fractionText (nanos % 1000000000) ++ ['Z']) =
      some (nanos % 1000000000, ['Z']) := readFraction_fractionText (by omega)
  have hsec : readField (decimal 2 (second % 60 + nanos / 1000000000) ++
      (fractionText (nanos % 1000000000) ++ ['Z'])) =
        some (second % 60 + nanos / 1000000000, fractionText (nanos % 1000000000) ++ ['Z']) :=
    readField_decimal (by omega) (head?_fractionText _)
  have hmin (rest : List Char) : readField (decimal 2 (second / 60 % 60) ++ ':' :: rest) =
      some (second / 60 % 60, ':' :: rest) := readField_decimal (by omega) (by simp)
  have hhour (rest : List Char) : readField (decimal 2 (second / 3600) ++ ':' :: rest) =
      some (second / 3600, ':' :: rest) := readField_decimal (by omega) (by simp)
  have hk (text : List Char) : readMark ':' (':' :: text) = some text := readMark_cons (by decide)
  have hv : second / 3600 < 24 ∧ second / 60 % 60 < 60 ∧
      second % 60 + nanos / 1000000000 ≤ 60 := by omega
  simp only [timeText, List.append_assoc, List.cons_append]
  simp only [readTime, hhour, hmin, hsec, hf, hk, Option.bind_eq_bind, Option.bind_some, if_pos hv]
  split
  next hl =>
    rw [show (second / 3600 * 60 + second / 60 % 60) * 60 + 59 = second by omega]
    rw [show 1000000000 + nanos % 1000000000 = nanos by omega]
  next hl =>
    rw [show (second / 3600 * 60 + second / 60 % 60) * 60 +
      (second % 60 + nanos / 1000000000) = second by omega]
    rw [show nanos % 1000000000 = nanos by omega]

theorem ofParts?_self (instant : Instant) :
    ofParts? instant.seconds instant.nanos = some instant :=
  dif_pos ⟨instant.notEarly, instant.notLate, instant.fits⟩

/-- Whether an instant is in no leap second but one at the end of a minute. -/
def IsCanonical (instant : Instant) : Prop :=
  instant.nanos < 1000000000 ∨ instant.seconds % 60 = 59

instance (instant : Instant) : Decidable instant.IsCanonical :=
  inferInstanceAs (Decidable (_ ∨ _))

theorem isCanonical_of_not_isLeap {instant : Instant} (h : instant.isLeap = false) :
    instant.IsCanonical :=
  Or.inl (Nat.not_le.mp (of_decide_eq_false h))

theorem lt_lastSecond_of_not_isCanonical {instant : Instant} (h : ¬ instant.IsCanonical) :
    instant.seconds + 1 ≤ lastSecond := by
  have hl := instant.notLate
  simp only [IsCanonical, not_or] at h
  simp only [lastSecond] at hl ⊢
  omega

/-- The instant that is read from the text of another one. A leap second within a minute has the
text of the second that comes next, and is read as that. -/
def canonical (instant : Instant) : Instant :=
  if h : instant.IsCanonical then instant
  else ⟨instant.seconds + 1, instant.nanos - 1000000000,
    Int.le_add_one instant.notEarly, lt_lastSecond_of_not_isCanonical h,
    Nat.lt_of_le_of_lt (Nat.sub_le _ _) instant.fits⟩

theorem canonical_of_isCanonical {instant : Instant} (h : instant.IsCanonical) :
    instant.canonical = instant :=
  dif_pos h

theorem isCanonical_canonical (instant : Instant) : instant.canonical.IsCanonical := by
  have hf := instant.fits
  unfold canonical
  split
  next h => exact h
  next => exact Or.inl (by dsimp only; omega)

theorem canonical_eq_self_iff {instant : Instant} :
    instant.canonical = instant ↔ instant.IsCanonical :=
  ⟨fun h => h ▸ isCanonical_canonical instant, canonical_of_isCanonical⟩

theorem timeText_succ {second : Nat} (hs : second % 60 ≠ 59) (nanos : Nat) :
    timeText (second + 1) nanos = timeText second (nanos + 1000000000) := by
  have hhour : (second + 1) / 3600 = second / 3600 := by omega
  have hmin : (second + 1) / 60 = second / 60 := by omega
  have hsec : (second + 1) % 60 + nanos / 1000000000 =
      second % 60 + (nanos + 1000000000) / 1000000000 := by omega
  simp only [timeText, hhour, hmin, hsec, Nat.add_mod_right]

theorem print_canonical (instant : Instant) : instant.canonical.print = instant.print := by
  have hf := instant.fits
  unfold canonical
  split
  next => rfl
  next h =>
    simp only [IsCanonical, not_or] at h
    have hd : (instant.seconds + 1) / 86400 = instant.seconds / 86400 := by omega
    have hs : ((instant.seconds + 1) % 86400).toNat = (instant.seconds % 86400).toNat + 1 := by omega
    simp only [print, secondOfDay, hd, hs]
    rw [timeText_succ (by omega), Nat.sub_add_cancel (by omega)]

theorem read?_print_of_isCanonical {instant : Instant} (h : instant.IsCanonical) :
    read? instant.print = some instant := by
  have he := instant.notEarly
  have hl := instant.notLate
  have hf := instant.fits
  simp only [firstSecond, lastSecond] at he hl
  have hy : -262143 ≤ (CalendarDate.ofDays (instant.seconds / 86400)).year ∧
      (CalendarDate.ofDays (instant.seconds / 86400)).year ≤ 262142 :=
    CalendarDate.year_ofDays (by omega) (by omega)
  have hs : instant.secondOfDay.toNat < 86400 := by
    unfold secondOfDay
    omega
  have hn : instant.nanos < 1000000000 ∨
      (instant.nanos < 2000000000 ∧ instant.secondOfDay.toNat % 60 = 59) := by
    unfold secondOfDay
    rcases h with h | h
    · exact Or.inl h
    · exact Or.inr ⟨hf, by omega⟩
  have hd (rest : List Char) : readDate (dateText (CalendarDate.ofDays (instant.seconds / 86400)) ++
      'T' :: rest) = some (CalendarDate.ofDays (instant.seconds / 86400), 'T' :: rest) :=
    readDate_dateText (instant.seconds / 86400) (by simp)
  have ht : (CalendarDate.ofDays (instant.seconds / 86400)).toDays * 86400 +
      (instant.secondOfDay.toNat : Int) - 0 = instant.seconds := by
    rw [CalendarDate.toDays_ofDays, secondOfDay]
    omega
  have hz : trimStart ['Z'] = ['Z'] := trimStart_cons (by decide)
  have ho : readOffset ['Z'] = some (0, []) := rfl
  have hm : isDateEnd 'T' = true := rfl
  have hb : isBlank [] = true := rfl
  simp only [print, read?, hd, Option.bind_eq_bind, Option.bind_some, if_pos hm,
    readTime_timeText hs hn, hz, ho, if_pos hb, ofFields?, if_pos hy, ht, ofParts?_self]

/-- An instant that has been written is read back in its canonical form, whatever its year and its
fraction. -/
theorem read?_print (instant : Instant) : read? instant.print = some instant.canonical := by
  rw [← print_canonical, read?_print_of_isCanonical (isCanonical_canonical instant)]

end Instant

end RequestScript
