import QueryFilter.Calendar.DateTime

/-!
# Day numbers

The days are numbered from the first one of year 1, with the years and months as long as the
calendar has them. The day after has the next number (`dayNumber_next`) and two days never have the
same (`dayNumber_injective`), so that a date-time is known by the number of its minute. Moving it by
less than a day moves that number and keeps the seconds (`minuteNumber_minusMinutes`).
-/

namespace QueryFilter.Calendar

/-! ### Years and months -/

def daysInYear (year : Int) : Int := if isLeapYear year then 366 else 365

/-- The days from the start of year 1 to the start of the year. Every fourth year has one day more,
but of the centuries only every fourth. -/
def daysBeforeYear (year : Int) : Int :=
  let past := year - 1
  365 * past + past / 4 - past / 100 + past / 400

/-- The days of the months from January up to `month`, which does not count. -/
def daysBeforeMonth (year : Int) : Nat → Nat
  | 0 | 1 => 0
  | month + 2 => daysBeforeMonth year (month + 1) + daysInMonth year (month + 1)

theorem isLeapYear_iff {year : Int} :
    isLeapYear year = true ↔ year % 4 = 0 ∧ (year % 100 ≠ 0 ∨ year % 400 = 0) := by
  simp [isLeapYear]

theorem daysBeforeYear_succ (year : Int) :
    daysBeforeYear (year + 1) = daysBeforeYear year + daysInYear year := by
  unfold daysBeforeYear daysInYear
  dsimp only
  split
  · rename_i leap
    obtain ⟨fourth, century⟩ := isLeapYear_iff.mp leap
    omega
  · rename_i common
    rw [isLeapYear_iff] at common
    omega

theorem daysBeforeYear_mono {year later : Int} (before : year ≤ later) :
    daysBeforeYear year ≤ daysBeforeYear later := by
  unfold daysBeforeYear
  dsimp only
  rcases Int.lt_or_eq_of_le before with before | rfl
  · omega
  · exact Int.le_refl _

theorem daysBeforeMonth_succ (year : Int) {month : Nat} (counted : 1 ≤ month) :
    daysBeforeMonth year (month + 1) = daysBeforeMonth year month + daysInMonth year month := by
  obtain ⟨month, rfl⟩ := Nat.exists_eq_add_of_le' counted
  rfl

theorem daysBeforeMonth_mono (year : Int) {month later : Nat} (counted : 1 ≤ month)
    (before : month ≤ later) : daysBeforeMonth year month ≤ daysBeforeMonth year later := by
  induction before with
  | refl => exact Nat.le_refl _
  | @step later before ih =>
    rw [daysBeforeMonth_succ year (Nat.le_trans counted before)]
    omega

theorem daysBeforeMonth_thirteen (year : Int) :
    (daysBeforeMonth year 13 : Int) = daysInYear year := by
  unfold daysInYear
  cases leap : isLeapYear year <;> simp [daysBeforeMonth, daysInMonth, leap]

/-! ### Days -/

namespace Date

/-- The number of the day, with 1 for the first day of year 1. -/
def dayNumber (d : Date) : Int := daysBeforeYear d.year + daysBeforeMonth d.year d.month + d.day

theorem dayNumber_next (d : Date) : d.next.dayNumber = d.dayNumber + 1 := by
  have valid := d.valid
  unfold next
  split
  · show daysBeforeYear d.year + daysBeforeMonth d.year d.month + ((d.day + 1 : Nat) : Int) = _
    unfold dayNumber
    omega
  · rename_i last
    split
    · have months := daysBeforeMonth_succ d.year valid.1
      show daysBeforeYear d.year + daysBeforeMonth d.year (d.month + 1) + (1 : Nat) = _
      unfold dayNumber
      omega
    · have december : d.month = 12 := by omega
      have months : daysBeforeMonth d.year 13 = _ := daysBeforeMonth_succ d.year (by decide)
      have year := daysBeforeMonth_thirteen d.year
      have years := daysBeforeYear_succ d.year
      show daysBeforeYear (d.year + 1) + daysBeforeMonth (d.year + 1) 1 + (1 : Nat) = _
      have january : daysBeforeMonth (d.year + 1) 1 = 0 := rfl
      unfold dayNumber
      rw [december] at last valid ⊢
      omega

theorem dayNumber_previous (d : Date) : d.previous.dayNumber = d.dayNumber - 1 := by
  have next := dayNumber_next d.previous
  rw [next_previous] at next
  omega

theorem dayNumber_lt_of_month_lt {d e : Date} (year : d.year = e.year) (month : d.month < e.month) :
    d.dayNumber < e.dayNumber := by
  obtain ⟨counted, -, -, last⟩ := d.valid
  obtain ⟨-, -, first, -⟩ := e.valid
  have months := daysBeforeMonth_mono d.year (Nat.le_succ_of_le counted) month
  rw [daysBeforeMonth_succ d.year counted] at months
  unfold dayNumber
  rw [← year]
  omega

theorem dayNumber_lt_of_year_lt {d e : Date} (year : d.year < e.year) :
    d.dayNumber < e.dayNumber := by
  obtain ⟨counted, twelve, -, last⟩ := d.valid
  obtain ⟨-, -, first, -⟩ := e.valid
  have years := daysBeforeYear_mono (show d.year + 1 ≤ e.year from year)
  have months := daysBeforeMonth_mono d.year (Nat.le_succ_of_le counted)
    (show d.month + 1 ≤ 13 by omega)
  have whole := daysBeforeMonth_thirteen d.year
  rw [daysBeforeMonth_succ d.year counted] at months
  rw [daysBeforeYear_succ] at years
  unfold dayNumber
  omega

theorem dayNumber_injective {d e : Date} (same : d.dayNumber = e.dayNumber) : d = e := by
  rcases Int.lt_trichotomy d.year e.year with before | year | after
  · exact absurd same (Int.ne_of_lt (dayNumber_lt_of_year_lt before))
  · rcases Nat.lt_trichotomy d.month e.month with before | month | after
    · exact absurd same (Int.ne_of_lt (dayNumber_lt_of_month_lt year before))
    · refine ext year month ?_
      unfold dayNumber at same
      rw [year, month] at same
      omega
    · exact absurd same.symm (Int.ne_of_lt (dayNumber_lt_of_month_lt year.symm after))
  · exact absurd same.symm (Int.ne_of_lt (dayNumber_lt_of_year_lt after))

end Date

/-! ### Minutes -/

theorem Time.ext {t u : Time} (hour : t.hour = u.hour) (minute : t.minute = u.minute)
    (second : t.second = u.second) (nanosecond : t.nanosecond = u.nanosecond) : t = u := by
  cases t
  cases u
  subst hour minute second nanosecond
  rfl

theorem Time.minuteOfDay_lt (t : Time) : t.minuteOfDay < 1440 := by
  have valid := t.valid
  unfold minuteOfDay
  omega

theorem Time.minuteOfDay_withMinute (t : Time) {n : Nat} (within : n < 1440) :
    (t.withMinute n).minuteOfDay = n := by
  show n / 60 % 24 * 60 + n % 60 = n
  omega

namespace DateTime

/-- The number of the minute, counted as the days are. -/
def minuteNumber (t : DateTime) : Int := t.date.dayNumber * 1440 + t.time.minuteOfDay

theorem minuteNumber_minusMinutes (t : DateTime) {minutes : Int}
    (short : -1440 < minutes ∧ minutes < 1440) :
    (t.minusMinutes minutes).minuteNumber = t.minuteNumber - minutes := by
  have within := t.time.minuteOfDay_lt
  have before := t.date.dayNumber_previous
  have after := t.date.dayNumber_next
  unfold minusMinutes minuteNumber
  dsimp only
  split
  · dsimp only
    rw [Time.minuteOfDay_withMinute _ (by omega)]
    omega
  · split
    · dsimp only
      rw [Time.minuteOfDay_withMinute _ (by omega)]
      omega
    · dsimp only
      rw [Time.minuteOfDay_withMinute _ (by omega)]
      omega

/-- Seconds and fraction stay, those of a leap second too. -/
theorem second_minusMinutes (t : DateTime) (minutes : Int) :
    (t.minusMinutes minutes).time.second = t.time.second ∧
      (t.minusMinutes minutes).time.nanosecond = t.time.nanosecond := by
  unfold minusMinutes
  dsimp only
  split
  · exact ⟨rfl, rfl⟩
  · split <;> exact ⟨rfl, rfl⟩

theorem eq_of_minuteNumber {t u : DateTime} (minute : t.minuteNumber = u.minuteNumber)
    (second : t.time.second = u.time.second)
    (nanosecond : t.time.nanosecond = u.time.nanosecond) : t = u := by
  obtain ⟨d, time⟩ := t
  obtain ⟨e, other⟩ := u
  have within := time.minuteOfDay_lt
  have within' := other.minuteOfDay_lt
  unfold minuteNumber at minute
  dsimp only at minute second nanosecond
  obtain rfl := Date.dayNumber_injective (show d.dayNumber = e.dayNumber by omega)
  have minutes : time.minuteOfDay = other.minuteOfDay := by omega
  have valid := time.valid
  have valid' := other.valid
  unfold Time.minuteOfDay at minutes
  have hour : time.hour = other.hour := by omega
  have minuteInHour : time.minute = other.minute := by omega
  rw [Time.ext hour minuteInHour second nanosecond]

theorem minusMinutes_zero (t : DateTime) : t.minusMinutes 0 = t := by
  obtain ⟨second, nanosecond⟩ := t.second_minusMinutes 0
  have minute : (t.minusMinutes 0).minuteNumber = t.minuteNumber - 0 :=
    t.minuteNumber_minusMinutes (by decide)
  exact eq_of_minuteNumber (minute.trans (Int.sub_zero _)) second nanosecond

end DateTime

end QueryFilter.Calendar
