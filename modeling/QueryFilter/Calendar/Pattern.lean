import QueryFilter.Calendar.DateTime
import QueryFilter.Text.Blank

/-!
# Date patterns

A pattern lists what a text holds in order. A number may have blanks in front and fewer digits
than its width; blanks in a pattern stand for any amount of blanks. Nothing may be left over.
-/

namespace QueryFilter.Calendar

inductive PatternItem where
  | year
  | month
  | day
  | hour
  | minute
  | second
  /-- A point and at least one digit of a second, or nothing. -/
  | fraction
  | blanks
  | literal (c : Char)
  deriving DecidableEq, Repr

/-- The numbers read so far, not yet checked against the calendar. -/
structure PatternFields where
  year : Int := 0
  month : Nat := 0
  day : Nat := 0
  hour : Nat := 0
  minute : Nat := 0
  second : Nat := 0
  nanosecond : Nat := 0

def leadingNumber? (s : List Char) : Option (Nat × List Char) :=
  let digits := s.takeWhile Char.isDigit
  if digits = [] then none else some (Nat.ofDigitChars 10 digits 0, s.dropWhile Char.isDigit)

def numberUpTo? (width : Nat) (s : List Char) : Option (Nat × List Char) :=
  (leadingNumber? (s.take width)).map fun (n, rest) => (n, rest ++ s.drop width)

/-- A year has up to four digits, or a sign and any number of them. -/
def readYear? : List Char → Option (Int × List Char)
  | '-' :: rest => (leadingNumber? rest).map fun (n, rest) => (-(n : Int), rest)
  | '+' :: rest => (leadingNumber? rest).map fun (n, rest) => ((n : Int), rest)
  | s => (numberUpTo? 4 s).map fun (n, rest) => ((n : Int), rest)

/-- The nanoseconds that the digits behind a point stand for; those past the ninth do not count. -/
def nanosecondsOf (digits : List Char) : Nat :=
  let kept := digits.take 9
  Nat.ofDigitChars 10 kept 0 * Nat.pow 10 (9 - kept.length)

def readFraction? : List Char → Option (Nat × List Char)
  | '.' :: rest =>
    let digits := rest.takeWhile Char.isDigit
    if digits = [] then none else some (nanosecondsOf digits, rest.dropWhile Char.isDigit)
  | s => some (0, s)

def PatternItem.read? (item : PatternItem) (fields : PatternFields) (s : List Char) :
    Option (PatternFields × List Char) :=
  let two := numberUpTo? 2 (Text.trimStart s)
  match item with
  | .year => (readYear? (Text.trimStart s)).map fun (n, s) => ({ fields with year := n }, s)
  | .month => two.map fun (n, s) => ({ fields with month := n }, s)
  | .day => two.map fun (n, s) => ({ fields with day := n }, s)
  | .hour => two.map fun (n, s) => ({ fields with hour := n }, s)
  | .minute => two.map fun (n, s) => ({ fields with minute := n }, s)
  | .second => two.map fun (n, s) => ({ fields with second := n }, s)
  | .fraction => (readFraction? s).map fun (n, s) => ({ fields with nanosecond := n }, s)
  | .blanks => some (fields, Text.trimStart s)
  | .literal c => match s with
    | d :: rest => if d = c then some (fields, rest) else none
    | [] => none

abbrev Pattern := List PatternItem

def Pattern.readFrom? : Pattern → PatternFields → List Char → Option PatternFields
  | [], fields, s => if s = [] then some fields else none
  | item :: items, fields, s =>
    (item.read? fields s).bind fun (fields, s) => readFrom? items fields s

def PatternFields.date? (fields : PatternFields) : Option Date :=
  (Date.ofParts? fields.year fields.month fields.day).filter Date.inRange

def PatternFields.dateTime? (fields : PatternFields) : Option DateTime :=
  fields.date?.bind fun date =>
    (Time.ofParts? fields.hour fields.minute fields.second fields.nanosecond).map fun time =>
      ⟨date, time⟩

namespace Pattern

def read? (p : Pattern) (s : List Char) : Option PatternFields := p.readFrom? {} s

def date : Pattern := [.year, .literal '-', .month, .literal '-', .day]

def minutes : Pattern := [.hour, .literal ':', .minute]

def seconds : Pattern := minutes ++ [.literal ':', .second, .fraction]

/-- The date-time patterns, in the order in which they are tried. -/
def dateTimes : List Pattern :=
  [date ++ [.blanks] ++ seconds, date ++ [.literal 'T'] ++ seconds,
    date ++ [.blanks] ++ minutes, date ++ [.literal 'T'] ++ minutes]

end Pattern

end QueryFilter.Calendar
