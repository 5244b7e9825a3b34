import QueryFilter.Calendar.Pattern

/-!
# Internet timestamps

The date-time with a zone of RFC 3339. Every number has its full width; the result is the instant
in universal time.
-/

namespace QueryFilter.Calendar.Internet

def expect? (c : Char) : List Char → Option (List Char)
  | d :: rest => if d = c then some rest else none
  | [] => none

def two? (s : List Char) : Option (Nat × List Char) := Decimal.digitsExactly? 2 s

def separator? : List Char → Option (List Char)
  | c :: rest => if c = 'T' ∨ c = 't' ∨ c = ' ' then some rest else none
  | [] => none

/-- Whether an offset is west of universal time; the typographic minus counts as a minus. -/
def offsetSign? : List Char → Option (Bool × List Char)
  | '+' :: rest => some (false, rest)
  | '-' :: rest => some (true, rest)
  | '\u2212' :: rest => some (true, rest)
  | _ => none

/-- The minutes that local time is ahead of universal time: `Z`, or a signed `HH:MM` of less than
a day. -/
def offset? : List Char → Option (Int × List Char)
  | 'Z' :: rest => some (0, rest)
  | 'z' :: rest => some (0, rest)
  | s => do
    let (west, s) ← offsetSign? s
    let (hours, s) ← two? s
    let s ← expect? ':' s
    let (minutes, s) ← two? s
    if hours < 24 ∧ minutes < 60 then
      let ahead : Int := hours * 60 + minutes
      some (if west then -ahead else ahead, s)
    else none

def localDateTime? (s : List Char) : Option (DateTime × List Char) := do
  let (year, s) ← Decimal.digitsExactly? 4 s
  let s ← expect? '-' s
  let (month, s) ← two? s
  let s ← expect? '-' s
  let (day, s) ← two? s
  let s ← separator? s
  let (hour, s) ← two? s
  let s ← expect? ':' s
  let (minute, s) ← two? s
  let s ← expect? ':' s
  let (second, s) ← two? s
  let (nanosecond, s) ← readFraction? s
  let date ← Date.ofParts? year month day
  let time ← Time.ofParts? hour minute second nanosecond
  some (⟨date, time⟩, s)

def dateTime? (s : List Char) : Option DateTime := do
  let (t, s) ← localDateTime? s
  let (ahead, s) ← offset? s
  if s = [] then some (t.minusMinutes ahead) else none

end QueryFilter.Calendar.Internet
