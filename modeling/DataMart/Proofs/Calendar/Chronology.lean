import DataMart.Calendar.Timestamp

/-!
# The order of days and times

Days are numbered without a gap, so the earlier of two days is the one with the lower number. A time
of day is placed on a line on which every second has room for a leap second (`Timestamp.moment`).

* `daysBeforeYear_succ`, `daysBeforeMonth_end`: the days of a year, counted in two ways.
* `Date.dayNumber_lt_iff`: days follow each other by year, month and day.
* `Timestamp.moment_lt_iff`: times follow each other by date, hour, minute, second and nanosecond.
* `Timestamp.leapAtEnd_of_ofParts?`: times that are built from parts have no leap second inside a
  minute.
-/

namespace DataMart.Calendar

/-! ## Years and months -/

/-- The next year starts when all days of a year are over. -/
theorem daysBeforeYear_succ (year : Int) :
    daysBeforeYear (year + 1) = daysBeforeYear year + daysInYear year := by
  have hfour (n : Int) : n.fdiv 4 = n / 4 := Int.fdiv_eq_ediv_of_nonneg n (by decide)
  have hhundred (n : Int) : n.fdiv 100 = n / 100 := Int.fdiv_eq_ediv_of_nonneg n (by decide)
  have hfourHundred (n : Int) : n.fdiv 400 = n / 400 := Int.fdiv_eq_ediv_of_nonneg n (by decide)
  have hleap : isLeap year = true ↔ year % 4 = 0 ∧ (year % 100 ≠ 0 ∨ year % 400 = 0) := by
    simp [isLeap]
  unfold daysBeforeYear daysInYear
  simp only [hfour, hhundred, hfourHundred, hleap]
  split <;> omega

/-- A later year starts when all days of an earlier one are over. -/
theorem daysBeforeYear_add_le {year later : Int} (h : year < later) :
    daysBeforeYear year + daysInYear year ≤ daysBeforeYear later := by
  obtain ⟨n, rfl⟩ : ∃ n : Nat, later = year + 1 + n := ⟨(later - (year + 1)).toNat, by omega⟩
  clear h
  induction n with
  | zero =>
      have hsucc := daysBeforeYear_succ year
      simp only [Int.natCast_zero, Int.add_zero]
      omega
  | succ n ih =>
      have hsucc := daysBeforeYear_succ (year + 1 + n)
      have hcast : year + 1 + ((n + 1 : Nat) : Int) = year + 1 + n + 1 := by omega
      rw [hcast, hsucc]
      omega

/-- A later month starts when all days of an earlier one are over. -/
theorem daysBeforeMonth_add_le (year : Int) {month later : Nat} (h : month < later) :
    daysBeforeMonth year month + daysInMonth year month ≤ daysBeforeMonth year later := by
  induction later with
  | zero => cases h
  | succ later ih =>
      rw [daysBeforeMonth]
      by_cases hlast : month = later
      · exact Nat.le_of_eq (by rw [hlast])
      · have hbefore := ih (by omega)
        omega

/-- Other numbers than 1 to 12 are no months. -/
theorem daysInMonth_eq_zero (year : Int) {month : Nat} (h : month = 0 ∨ 12 < month) :
    daysInMonth year month = 0 := by
  unfold daysInMonth
  split <;> omega

/-- No month has more than 31 days. -/
theorem daysInMonth_le (year : Int) (month : Nat) : daysInMonth year month ≤ 31 := by
  unfold daysInMonth
  split <;> grind

/-- The days of twelve months are those of the year. -/
theorem daysBeforeMonth_end (year : Int) : daysBeforeMonth year 13 = daysInYear year := by
  cases h : isLeap year <;> simp [daysBeforeMonth, daysInMonth, daysInYear, h]

/-! ## Days -/

namespace Date

variable {d e : Date}

/-- The parts of a day are those of a day that exists. -/
theorem bounds (d : Date) :
    1 ≤ d.month ∧ d.month ≤ 12 ∧ 1 ≤ d.day ∧ d.day ≤ daysInMonth d.year d.month := by
  have h := d.isDay
  simp only [Calendar.isDay, Bool.and_eq_true, decide_eq_true_iff] at h
  obtain ⟨⟨-, hfirst⟩, hlast⟩ := h
  have hmonth : ¬ (d.month = 0 ∨ 12 < d.month) := by
    intro hnone
    rw [daysInMonth_eq_zero d.year hnone] at hlast
    omega
  omega

/-- A day lies in its year. -/
theorem daysBeforeMonth_add_day_le (d : Date) :
    daysBeforeMonth d.year d.month + d.day ≤ daysInYear d.year := by
  obtain ⟨-, hmonth, -, hday⟩ := d.bounds
  have h := daysBeforeMonth_add_le d.year (show d.month < 13 by omega)
  rw [daysBeforeMonth_end] at h
  omega

/-- Days follow each other by year, month and day. -/
theorem dayNumber_lt (h : d.year < e.year ∨ d.year = e.year ∧
    (d.month < e.month ∨ d.month = e.month ∧ d.day < e.day)) : d.dayNumber < e.dayNumber := by
  obtain ⟨-, -, hfirst, hlast⟩ := d.bounds
  obtain ⟨-, -, hfirst', -⟩ := e.bounds
  unfold dayNumber
  rcases h with hyear | ⟨hyear, hmonth | ⟨hmonth, hday⟩⟩
  · have hyears := daysBeforeYear_add_le hyear
    have hin := d.daysBeforeMonth_add_day_le
    omega
  · have hmonths := daysBeforeMonth_add_le e.year hmonth
    rw [hyear] at hlast ⊢
    omega
  · rw [hyear, hmonth]
    omega

/-- A day is told by its year, month and day. -/
theorem eq_iff_parts : d = e ↔ d.year = e.year ∧ d.month = e.month ∧ d.day = e.day := by
  refine ⟨fun h => h ▸ ⟨rfl, rfl, rfl⟩, ?_⟩
  rintro ⟨hyear, hmonth, hday⟩
  cases d
  cases e
  cases hyear
  cases hmonth
  cases hday
  rfl

/-- **The order of days.** The earlier day has the lower number. -/
theorem dayNumber_lt_iff : d.dayNumber < e.dayNumber ↔ d.year < e.year ∨ d.year = e.year ∧
    (d.month < e.month ∨ d.month = e.month ∧ d.day < e.day) := by
  refine ⟨fun h => Decidable.byContradiction fun hnot => ?_, dayNumber_lt⟩
  by_cases heq : d.year = e.year ∧ d.month = e.month ∧ d.day = e.day
  · obtain rfl := eq_iff_parts.2 heq
    exact Int.lt_irrefl _ h
  · -- what is neither earlier nor equal is later
    have hlater := dayNumber_lt (d := e) (e := d) (by omega)
    omega

/-- Days with one number are one day. -/
theorem dayNumber_inj : d.dayNumber = e.dayNumber ↔ d = e := by
  refine ⟨fun h => ?_, congrArg dayNumber⟩
  have hlt := dayNumber_lt_iff (d := d) (e := e)
  have hgt := dayNumber_lt_iff (d := e) (e := d)
  rw [eq_iff_parts]
  omega

end Date

/-! ## Times -/

namespace Timestamp

variable {t u : Timestamp}

/-- The place of a time on a line on which every second has room to run on into a leap second. -/
def moment (t : Timestamp) : Int :=
  (((t.date.dayNumber * 24 + t.hour) * 60 + t.minute) * 60 + t.second) * (2 * nanosPerSecond) +
    t.nanos

/-- The parts of a time are those of a time of day. -/
theorem bounds (t : Timestamp) :
    t.hour < 24 ∧ t.minute < 60 ∧ t.second < 60 ∧ t.nanos < 2 * nanosPerSecond := by
  have h := t.isTime
  simp only [Calendar.isTime, Bool.and_eq_true, decide_eq_true_iff] at h
  omega

/-- A time that was built from parts has its leap second at the end of a minute. -/
theorem leapAtEnd_of_ofParts? {date : Date} {hour minute second nanos : Nat}
    (h : ofParts? date hour minute second nanos = some t) : t.LeapAtEnd := by
  unfold ofParts? at h
  split at h
  · dsimp only at h
    split at h
    · rename_i hleap
      cases h
      exact hleap
    · cases h
  · cases h

/-- **The order of times.** They follow each other by date, hour, minute, second and nanosecond. -/
theorem moment_lt_iff : t.moment < u.moment ↔
    t.date.dayNumber < u.date.dayNumber ∨ t.date = u.date ∧
      (t.hour < u.hour ∨ t.hour = u.hour ∧
        (t.minute < u.minute ∨ t.minute = u.minute ∧
          (t.second < u.second ∨ t.second = u.second ∧ t.nanos < u.nanos))) := by
  obtain ⟨hhour, hminute, hsecond, hnanos⟩ := t.bounds
  obtain ⟨hhour', hminute', hsecond', hnanos'⟩ := u.bounds
  rw [← Date.dayNumber_inj]
  unfold moment nanosPerSecond at *
  omega

/-- A time is told by its date, hour, minute, second and nanosecond. -/
theorem eq_of_parts (hdate : t.date = u.date) (hhour : t.hour = u.hour)
    (hminute : t.minute = u.minute) (hsecond : t.second = u.second) (hnanos : t.nanos = u.nanos) :
    t = u := by
  cases t
  cases u
  cases hdate
  cases hhour
  cases hminute
  cases hsecond
  cases hnanos
  rfl

/-- Times at one place are one time. -/
theorem moment_inj : t.moment = u.moment ↔ t = u := by
  refine ⟨fun h => ?_, congrArg moment⟩
  have hlt := moment_lt_iff (t := t) (u := u)
  have hgt := moment_lt_iff (t := u) (u := t)
  rw [h] at hlt hgt
  have hdate : t.date = u.date := by
    rw [← Date.dayNumber_inj]
    omega
  simp only [hdate, true_and, Int.lt_irrefl, false_iff, false_or] at hlt hgt
  exact eq_of_parts hdate (by omega) (by omega) (by omega) (by omega)

end Timestamp

end DataMart.Calendar
