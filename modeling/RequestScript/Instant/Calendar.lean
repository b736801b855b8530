namespace RequestScript

/-- A date of the Gregorian calendar, which is carried back before its start. -/
structure CalendarDate where
  year : Int
  month : Int
  day : Int
deriving DecidableEq

namespace CalendarDate

/-- The days from the start of 1970 to a date. Years and months are counted from March on, so that
a leap day is the last of its year. -/
def toDays (date : CalendarDate) : Int :=
  let year := if date.month ≤ 2 then date.year - 1 else date.year
  let month := if date.month ≤ 2 then date.month + 9 else date.month - 3
  365 * year + year / 4 - year / 100 + year / 400 + (153 * month + 2) / 5 + date.day - 719469

/-- A day among the 146097 days of 400 years, by its year and its number in the year, both from
March on; the last century and the last year of four may be a day longer than the others. -/
def yearOfDay (day : Int) : Int × Int :=
  let century := min (day / 36524) 3
  let day := day - 36524 * century
  let four := day / 1461
  let day := day - 1461 * four
  let one := min (day / 365) 3
  (100 * century + 4 * four + one, day - 365 * one)

theorem yearOfDay_bounds {day : Int} (h₀ : 0 ≤ day) (h₁ : day < 146097) :
    0 ≤ (yearOfDay day).1 ∧ (yearOfDay day).1 < 400 ∧
      0 ≤ (yearOfDay day).2 ∧ (yearOfDay day).2 < 366 := by
  simp only [yearOfDay]
  omega

theorem yearOfDay_days {day : Int} (h₀ : 0 ≤ day) (h₁ : day < 146097) :
    365 * (yearOfDay day).1 + (yearOfDay day).1 / 4 - (yearOfDay day).1 / 100 +
      (yearOfDay day).2 = day := by
  simp only [yearOfDay]
  generalize hc : min (day / 36524) 3 = century
  generalize hf : (day - 36524 * century) / 1461 = four
  generalize ho : min ((day - 36524 * century - 1461 * four) / 365) 3 = one
  have h₂ : (100 * century + 4 * four + one) / 4 = 25 * century + four := by omega
  have h₃ : (100 * century + 4 * four + one) / 100 = century := by omega
  omega

/-- The date of a day, given by its year and its number in the year from March on. -/
def ofYearDay (year day : Int) : CalendarDate :=
  let month := (5 * day + 2) / 153
  if month < 10 then ⟨year, month + 3, day - (153 * month + 2) / 5 + 1⟩
  else ⟨year + 1, month - 9, day - (153 * month + 2) / 5 + 1⟩

theorem toDays_ofYearDay {year day : Int} (h₀ : 0 ≤ day) (h₁ : day < 366) :
    (ofYearDay year day).toDays =
      365 * year + year / 4 - year / 100 + year / 400 + day - 719468 := by
  simp only [ofYearDay]
  generalize hm : (5 * day + 2) / 153 = month
  split
  · simp only [toDays, show ¬ month + 3 ≤ 2 by omega, if_false]
    rw [show month + 3 - 3 = month by omega]
    omega
  · simp only [toDays, show month - 9 ≤ 2 by omega, if_true]
    rw [show year + 1 - 1 = year by omega, show month - 9 + 9 = month by omega]
    omega

/-- The date that lies a number of days after the start of 1970. -/
def ofDays (days : Int) : CalendarDate :=
  let (year, day) := yearOfDay ((days + 719468) % 146097)
  ofYearDay ((days + 719468) / 146097 * 400 + year) day

theorem toDays_ofDays (days : Int) : (ofDays days).toDays = days := by
  have h₀ : 0 ≤ (days + 719468) % 146097 := by omega
  have h₁ : (days + 719468) % 146097 < 146097 := by omega
  have hs : 146097 * ((days + 719468) / 146097) + (days + 719468) % 146097 = days + 719468 := by
    omega
  have hb := yearOfDay_bounds h₀ h₁
  have hd := yearOfDay_days h₀ h₁
  simp only [ofDays]
  rw [toDays_ofYearDay hb.2.2.1 hb.2.2.2]
  generalize (days + 719468) / 146097 = cycle at *
  generalize (days + 719468) % 146097 = day at *
  generalize (yearOfDay day).1 = year at *
  have h₂ : (cycle * 400 + year) / 4 = 100 * cycle + year / 4 := by omega
  have h₃ : (cycle * 400 + year) / 100 = 4 * cycle + year / 100 := by omega
  have h₄ : (cycle * 400 + year) / 400 = cycle := by omega
  omega

/-- A date exists if it is the date of its day. -/
def exists? (date : CalendarDate) : Bool :=
  ofDays date.toDays == date

end CalendarDate

end RequestScript
