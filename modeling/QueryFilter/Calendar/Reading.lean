import QueryFilter.Calendar.Internet

/-!
# Reading dates and date-times

A date-time is an Internet timestamp, or matches one of the date-time patterns, or is a bare date,
which means its midnight. A date is a bare date or the day of a date-time.
-/

namespace QueryFilter.Calendar

def readDate? (s : List Char) : Option Date :=
  (Pattern.date.read? s).bind PatternFields.date?

def readPattern? (p : Pattern) (s : List Char) : Option DateTime :=
  (p.read? s).bind PatternFields.dateTime?

def dateTime? (s : List Char) : Option DateTime :=
  (Internet.dateTime? s).or <|
    (Pattern.dateTimes.findSome? fun p => readPattern? p s).or <|
      (readDate? s).map fun date => ⟨date, .midnight⟩

def date? (s : List Char) : Option Date :=
  (readDate? s).or ((dateTime? s).map DateTime.date)

end QueryFilter.Calendar
