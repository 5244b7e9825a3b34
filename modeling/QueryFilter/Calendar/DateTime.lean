import QueryFilter.Calendar.Date

/-!
# Times of day and date-times

A minute may have a second 60, the leap second. `DateTime.minusMinutes` moves a date-time back by
less than a day and keeps its seconds, so a leap second stays one.
-/

namespace QueryFilter.Calendar

structure Time where
  hour : Nat
  minute : Nat
  second : Nat
  nanosecond : Nat
  valid : hour < 24 ∧ minute < 60 ∧ second ≤ 60 ∧ nanosecond < 1000000000
  deriving DecidableEq

namespace Time

def ofParts? (hour minute second nanosecond : Nat) : Option Time :=
  if h : hour < 24 ∧ minute < 60 ∧ second ≤ 60 ∧ nanosecond < 1000000000 then
    some ⟨hour, minute, second, nanosecond, h⟩
  else none

def midnight : Time := ⟨0, 0, 0, 0, by decide⟩

def minuteOfDay (t : Time) : Nat := t.hour * 60 + t.minute

/-- The time `t` at the minute `n` of the day, counted modulo a day. -/
def withMinute (t : Time) (n : Nat) : Time :=
  ⟨n / 60 % 24, n % 60, t.second, t.nanosecond, by have := t.valid; omega⟩

/-- Nothing, three, six or nine digits behind a point: the fewest that are exact. -/
def renderFraction (nanosecond : Nat) : List Char :=
  if nanosecond = 0 then []
  else if nanosecond % 1000000 = 0 then '.' :: Decimal.padded 3 (nanosecond / 1000000)
  else if nanosecond % 1000 = 0 then '.' :: Decimal.padded 6 (nanosecond / 1000)
  else '.' :: Decimal.padded 9 nanosecond

def render (t : Time) : List Char :=
  Decimal.padded 2 t.hour ++ ':' :: Decimal.padded 2 t.minute ++ ':' ::
    Decimal.padded 2 t.second ++ renderFraction t.nanosecond

end Time

structure DateTime where
  date : Date
  time : Time
  deriving DecidableEq

namespace DateTime

/-- The date-time `minutes` earlier, for less than a day in either direction. -/
def minusMinutes (t : DateTime) (minutes : Int) : DateTime :=
  let n : Int := t.time.minuteOfDay - minutes
  if n < 0 then ⟨t.date.previous, t.time.withMinute (n + 1440).toNat⟩
  else if n < 1440 then ⟨t.date, t.time.withMinute n.toNat⟩
  else ⟨t.date.next, t.time.withMinute (n - 1440).toNat⟩

def render (t : DateTime) : List Char := t.date.render ++ ' ' :: t.time.render

end DateTime

end QueryFilter.Calendar
