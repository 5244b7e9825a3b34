import QueryFilter.Decimal.Integer

/-!
# Calendar dates

Dates of the Gregorian calendar, extended to all years; year 0 is the year before year 1. A `Date`
is always a day that the calendar has.
-/

namespace QueryFilter.Calendar

def isLeapYear (year : Int) : Bool := year % 4 == 0 && (year % 100 != 0 || year % 400 == 0)

def daysInMonth (year : Int) (month : Nat) : Nat :=
  if month = 2 then (if isLeapYear year then 29 else 28)
  else if month = 4 ∨ month = 6 ∨ month = 9 ∨ month = 11 then 30
  else 31

theorem daysInMonth_pos (year : Int) (month : Nat) : 1 ≤ daysInMonth year month := by
  unfold daysInMonth; repeat' split
  all_goals omega

structure Date where
  year : Int
  month : Nat
  day : Nat
  valid : 1 ≤ month ∧ month ≤ 12 ∧ 1 ≤ day ∧ day ≤ daysInMonth year month
  deriving DecidableEq

namespace Date

def ofParts? (year : Int) (month day : Nat) : Option Date :=
  if h : 1 ≤ month ∧ month ≤ 12 ∧ 1 ≤ day ∧ day ≤ daysInMonth year month then
    some ⟨year, month, day, h⟩
  else none

def inRange (d : Date) : Bool := -262143 ≤ d.year && d.year ≤ 262142

def next (d : Date) : Date :=
  if h : d.day + 1 ≤ daysInMonth d.year d.month then
    ⟨d.year, d.month, d.day + 1, by have := d.valid; omega⟩
  else if h : d.month < 12 then
    ⟨d.year, d.month + 1, 1, by have := daysInMonth_pos d.year (d.month + 1); omega⟩
  else ⟨d.year + 1, 1, 1, by have := daysInMonth_pos (d.year + 1) 1; omega⟩

def previous (d : Date) : Date :=
  if h : 1 < d.day then ⟨d.year, d.month, d.day - 1, by have := d.valid; omega⟩
  else if h : 1 < d.month then
    ⟨d.year, d.month - 1, daysInMonth d.year (d.month - 1), by
      have := daysInMonth_pos d.year (d.month - 1); have := d.valid; omega⟩
  else ⟨d.year - 1, 12, 31, by simp [daysInMonth]⟩

/-- A year is written with four digits; outside them it has a sign, and then the digits it needs
but four at least. -/
def renderYear (year : Int) : List Char :=
  if 0 ≤ year ∧ year ≤ 9999 then Decimal.padded 4 year.toNat
  else (if year < 0 then '-' else '+') :: Decimal.padded 4 year.natAbs

def render (d : Date) : List Char :=
  renderYear d.year ++ '-' :: Decimal.padded 2 d.month ++ '-' :: Decimal.padded 2 d.day

theorem ext {d e : Date} (hy : d.year = e.year) (hm : d.month = e.month) (hd : d.day = e.day) :
    d = e := by
  obtain ⟨y, m, a, v⟩ := d
  obtain ⟨y', m', a', v'⟩ := e
  obtain rfl : y = y' := hy
  obtain rfl : m = m' := hm
  obtain rfl : a = a' := hd
  rfl

theorem next_previous (d : Date) : d.previous.next = d := by
  have hv := d.valid
  unfold previous
  split
  · rw [next, dif_pos (show d.day - 1 + 1 ≤ daysInMonth d.year d.month by omega)]
    exact ext rfl rfl (by show d.day - 1 + 1 = d.day; omega)
  · split
    · have hlast : ¬ daysInMonth d.year (d.month - 1) + 1 ≤ daysInMonth d.year (d.month - 1) := by
        omega
      rw [next, dif_neg hlast, dif_pos (show d.month - 1 < 12 by omega)]
      exact ext rfl (by show d.month - 1 + 1 = d.month; omega) (by show 1 = d.day; omega)
    · have hlast : ¬ 31 + 1 ≤ daysInMonth (d.year - 1) 12 := by simp [daysInMonth]
      rw [next, dif_neg hlast, dif_neg (show ¬ 12 < 12 by omega)]
      exact ext (by show d.year - 1 + 1 = d.year; omega) (by show 1 = d.month; omega)
        (by show 1 = d.day; omega)

end Date

end QueryFilter.Calendar
