import RequestScript.Instant.Calendar

namespace RequestScript.CalendarDate

theorem ofYearDay_bounds {year day : Int} (h₀ : 0 ≤ day) (h₁ : day < 366) :
    1 ≤ (ofYearDay year day).month ∧ (ofYearDay year day).month ≤ 12 ∧
      1 ≤ (ofYearDay year day).day ∧ (ofYearDay year day).day ≤ 31 := by
  simp only [ofYearDay]
  split
  · dsimp only
    omega
  · dsimp only
    omega

/-- Months count from one to twelve, and days from one to thirty-one. -/
theorem ofDays_bounds (days : Int) :
    1 ≤ (ofDays days).month ∧ (ofDays days).month ≤ 12 ∧
      1 ≤ (ofDays days).day ∧ (ofDays days).day ≤ 31 := by
  have h₀ : 0 ≤ (days + 719468) % 146097 := by omega
  have h₁ : (days + 719468) % 146097 < 146097 := by omega
  have hb := yearOfDay_bounds h₀ h₁
  exact ofYearDay_bounds hb.2.2.1 hb.2.2.2

/-- The days of the years before one that starts in March. -/
def daysBefore (year : Int) : Int :=
  365 * year + year / 4 - year / 100 + year / 400

theorem daysBefore_mono {a b : Int} (h : a ≤ b) : daysBefore a ≤ daysBefore b := by
  unfold daysBefore
  omega

/-- A day of the calendar years from -262143 to 262142 has such a year. -/
theorem year_ofDays {days : Int} (h₀ : -96465292 ≤ days) (h₁ : days ≤ 95026236) :
    -262143 ≤ (ofDays days).year ∧ (ofDays days).year ≤ 262142 := by
  obtain ⟨hm₀, hm₁, hd₀, hd₁⟩ := ofDays_bounds days
  have ht := toDays_ofDays days
  generalize ofDays days = date at hm₀ hm₁ hd₀ hd₁ ht
  obtain ⟨year, month, day⟩ := date
  dsimp only at hm₀ hm₁ hd₀ hd₁ ⊢
  simp only [toDays] at ht
  -- January and February count with the year before, whose days are bounded apart
  refine ⟨Int.not_lt.mp fun hy => ?_, Int.not_lt.mp fun hy => ?_⟩
  · split at ht
    next hm =>
      have hb := daysBefore_mono (show year - 1 ≤ -262145 by omega)
      simp only [daysBefore] at hb
      omega
    next hm =>
      have hb := daysBefore_mono (show year ≤ -262144 by omega)
      simp only [daysBefore] at hb
      omega
  · split at ht
    next hm =>
      have hb := daysBefore_mono (show 262142 ≤ year - 1 by omega)
      simp only [daysBefore] at hb
      omega
    next hm =>
      have hb := daysBefore_mono (show 262143 ≤ year by omega)
      simp only [daysBefore] at hb
      omega

end RequestScript.CalendarDate
