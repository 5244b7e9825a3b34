import QueryFilter.Proofs.DayNumber
import QueryFilter.Proofs.Readings

/-!
# Local date-times and zones

A local date-time that is written with all its digits is read alike on its own and in front of a
zone (`Internet.localDateTime?_text`). The zone moves the minute by its offset and nothing else
(`zoned_eq_local`).
-/

namespace QueryFilter.Calendar

/-! ### Written date-times -/

/-- A number with all the digits that it is written with. -/
structure Numeral (width : Nat) where
  digits : List Char
  length_digits : digits.length = width
  all_digits : ∀ c ∈ digits, c.isDigit = true

/-- A date and a time with a `T` between them, every number in its full width. -/
structure LocalText where
  year : Numeral 4
  month : Numeral 2
  day : Numeral 2
  hour : Numeral 2
  minute : Numeral 2
  second : Numeral 2
  /-- The digits behind the point, which is only written in front of digits. -/
  fraction : List Char
  fraction_digits : ∀ c ∈ fraction, c.isDigit = true

namespace Numeral

variable {width : Nat}

def value (n : Numeral width) : Nat := Nat.ofDigitChars 10 n.digits 0

theorem digits_ne_nil (wide : 0 < width) (n : Numeral width) : n.digits ≠ [] := by
  rw [← List.length_pos_iff, n.length_digits]
  exact wide

theorem digitsExactly? (n : Numeral width) (rest : List Char) :
    Decimal.digitsExactly? width (n.digits ++ rest) = some (n.value, rest) :=
  Decimal.digitsExactly?_append n.length_digits n.all_digits rest

theorem two? (n : Numeral 2) (rest : List Char) :
    Internet.two? (n.digits ++ rest) = some (n.value, rest) :=
  n.digitsExactly? rest

theorem numberUpTo? (n : Numeral 2) (rest : List Char) :
    Calendar.numberUpTo? 2 (Text.trimStart (n.digits ++ rest)) = some (n.value, rest) := by
  rw [trimStart_digits (n.digits_ne_nil (by decide)) n.all_digits]
  exact numberUpTo?_append (by decide) n.length_digits n.all_digits rest

theorem readYear? (n : Numeral 4) (rest : List Char) :
    Calendar.readYear? (Text.trimStart (n.digits ++ rest)) = some ((n.value : Int), rest) := by
  rw [readYear?_of_isDigit (n.digits_ne_nil (by decide)) n.all_digits,
    numberUpTo?_append (by decide) n.length_digits n.all_digits]
  rfl

end Numeral

namespace LocalText

variable (l : LocalText)

def fractionText : List Char := if l.fraction = [] then [] else '.' :: l.fraction

def text : List Char :=
  l.year.digits ++ '-' :: (l.month.digits ++ '-' :: (l.day.digits ++ 'T' ::
    (l.hour.digits ++ ':' :: (l.minute.digits ++ ':' :: (l.second.digits ++ l.fractionText)))))

def fields : PatternFields where
  year := l.year.value
  month := l.month.value
  day := l.day.value
  hour := l.hour.value
  minute := l.minute.value
  second := l.second.value
  nanosecond := nanosecondsOf l.fraction

/-- What may follow a fraction, or the seconds where there is none. -/
def EndsFraction (rest : List Char) : Prop := ∀ c ∈ rest.head?, c.isDigit = false ∧ c ≠ '.'

theorem readFraction?_fractionText {rest : List Char} (ends : EndsFraction rest) :
    readFraction? (l.fractionText ++ rest) = some (nanosecondsOf l.fraction, rest) := by
  unfold fractionText
  split
  · rename_i none
    rw [none, List.nil_append]
    unfold readFraction?
    split
    · rename_i point
      exact absurd rfl (ends '.' rfl).2
    · rfl
  · rename_i nonempty
    exact readFraction?_append nonempty l.fraction_digits fun c first => (ends c first).1

theorem read?_text :
    Pattern.read? (Pattern.date ++ [.literal 'T'] ++ Pattern.seconds) l.text = some l.fields := by
  have ends : EndsFraction [] := nofun
  have fraction := l.readFraction?_fractionText ends
  rw [List.append_nil] at fraction
  simp only [Pattern.read?, text, Pattern.date, Pattern.seconds, Pattern.minutes,
    List.cons_append, List.nil_append, Pattern.readFrom?, PatternItem.read?, l.year.readYear?,
    Numeral.numberUpTo?, fraction, Option.map_some, Option.bind_some, ↓reduceIte]
  rfl

theorem dateTime?_text : dateTime? l.text = l.fields.dateTime? :=
  dateTime?_of_match (by decide) l.read?_text

theorem parts_of_dateTime? {t : DateTime} (read : dateTime? l.text = some t) :
    Date.ofParts? l.year.value l.month.value l.day.value = some t.date ∧
      Time.ofParts? l.hour.value l.minute.value l.second.value (nanosecondsOf l.fraction) =
        some t.time := by
  rw [dateTime?_text] at read
  obtain ⟨date, dated, read⟩ := Option.bind_eq_some_iff.mp read
  obtain ⟨time, timed, rfl⟩ := Option.map_eq_some_iff.mp read
  exact ⟨(Option.filter_eq_some_iff.mp dated).1, timed⟩

end LocalText

/-! ### Zones -/

/-- An offset with a sign, which is a minus in the west. -/
def offsetText (west : Bool) (hours minutes : Numeral 2) : List Char :=
  (if west then '-' else '+') :: (hours.digits ++ ':' :: minutes.digits)

/-- The minutes that the offset is ahead of universal time. -/
def offsetMinutes (west : Bool) (hours minutes : Numeral 2) : Int :=
  let ahead : Int := hours.value * 60 + minutes.value
  if west then -ahead else ahead

namespace Internet

open LocalText (EndsFraction)

theorem localDateTime?_text {l : LocalText} {t : DateTime}
    (read : Calendar.dateTime? l.text = some t) {zone : List Char} (ends : EndsFraction zone) :
    localDateTime? (l.text ++ zone) = some (t, zone) := by
  obtain ⟨dated, timed⟩ := l.parts_of_dateTime? read
  have separated (rest : List Char) : separator? ('T' :: rest) = some rest := by simp [separator?]
  have text : l.text ++ zone = l.year.digits ++ '-' :: (l.month.digits ++ '-' ::
      (l.day.digits ++ 'T' :: (l.hour.digits ++ ':' :: (l.minute.digits ++ ':' ::
        (l.second.digits ++ (l.fractionText ++ zone)))))) := by
    simp [LocalText.text]
  rw [text]
  simp only [localDateTime?, ↓Option.bind_eq_bind, ↓Option.bind_eq_some_iff, Prod.exists]
  refine ⟨_, _, l.year.digitsExactly? _, _, expect?_cons _ _, ?_⟩
  refine ⟨_, _, l.month.two? _, _, expect?_cons _ _, ?_⟩
  refine ⟨_, _, l.day.two? _, _, separated _, ?_⟩
  refine ⟨_, _, l.hour.two? _, _, expect?_cons _ _, ?_⟩
  refine ⟨_, _, l.minute.two? _, _, expect?_cons _ _, ?_⟩
  refine ⟨_, _, l.second.two? _, ?_⟩
  exact ⟨_, _, l.readFraction?_fractionText ends, _, dated, _, timed, rfl⟩

theorem offset?_offsetText (west : Bool) {hours minutes : Numeral 2} (day : hours.value < 24)
    (hour : minutes.value < 60) :
    offset? (offsetText west hours minutes) = some (offsetMinutes west hours minutes, []) := by
  have last := minutes.two? []
  rw [List.append_nil] at last
  cases west with
  | false => simp [offset?, offsetText, offsetSign?, hours.two?, last, day, hour, offsetMinutes]
  | true => simp [offset?, offsetText, offsetSign?, hours.two?, last, day, hour, offsetMinutes]

end Internet

open LocalText (EndsFraction)

theorem dateTime?_of_zone {l : LocalText} {t : DateTime} (read : dateTime? l.text = some t)
    {zone : List Char} (ends : EndsFraction zone) {ahead : Int}
    (offset : Internet.offset? zone = some (ahead, [])) :
    dateTime? (l.text ++ zone) = some (t.minusMinutes ahead) := by
  have zoned : Internet.dateTime? (l.text ++ zone) = some (t.minusMinutes ahead) := by
    simp [Internet.dateTime?, Internet.localDateTime?_text read ends, offset]
  rw [dateTime?, zoned, Option.some_or]

/-- Whether `u` is `t` so many minutes earlier, with the seconds of `t` and their fraction. -/
def DateTime.IsEarlier (u t : DateTime) (minutes : Int) : Prop :=
  u.minuteNumber = t.minuteNumber - minutes ∧ u.time.second = t.time.second ∧
    u.time.nanosecond = t.time.nanosecond

theorem DateTime.isEarlier_minusMinutes (t : DateTime) {minutes : Int}
    (short : -1440 < minutes ∧ minutes < 1440) : (t.minusMinutes minutes).IsEarlier t minutes :=
  ⟨t.minuteNumber_minusMinutes short, t.second_minusMinutes minutes⟩

theorem DateTime.IsEarlier.unique {u v t : DateTime} {minutes : Int}
    (earlier : u.IsEarlier t minutes) (other : v.IsEarlier t minutes) : v = u := by
  obtain ⟨minute, second, nanosecond⟩ := earlier
  obtain ⟨minute', second', nanosecond'⟩ := other
  exact eq_of_minuteNumber (minute'.trans minute.symm) (second'.trans second.symm)
    (nanosecond'.trans nanosecond.symm)

theorem fields_of_dateTime? {s : List Char} {t : DateTime} (read : dateTime? s = some t) :
    Scalar.ofText? .dateTime s = some (.dateTime t) ∧
      Scalar.ofText? .date s = some (.date t.date) := by
  simp [Scalar.ofText?, date?_eq_map_dateTime?, read]

/-- A local date-time with an offset behind it means the one date-time that is earlier by the offset
and has the same seconds. -/
theorem zoned_eq_local {l : LocalText} {t : DateTime} (read : dateTime? l.text = some t) :
    (dateTime? (l.text ++ ['Z']) = dateTime? l.text ∧
      Scalar.ofText? .dateTime (l.text ++ ['Z']) = some (.dateTime t) ∧
      Scalar.ofText? .date (l.text ++ ['Z']) = some (.date t.date)) ∧
    ∀ (west : Bool) (hours minutes : Numeral 2), hours.value < 24 → minutes.value < 60 →
      let zoned := l.text ++ offsetText west hours minutes
      let ahead := offsetMinutes west hours minutes
      ∃ u : DateTime, u.IsEarlier t ahead ∧ (∀ v : DateTime, v.IsEarlier t ahead → v = u) ∧
        dateTime? zoned = some u ∧ Scalar.ofText? .dateTime zoned = some (.dateTime u) ∧
        Scalar.ofText? .date zoned = some (.date u.date) := by
  constructor
  · have ends : EndsFraction ['Z'] := by simp [EndsFraction]
    have universal := dateTime?_of_zone read ends rfl
    rw [t.minusMinutes_zero] at universal
    exact ⟨universal.trans read.symm, fields_of_dateTime? universal⟩
  · intro west hours minutes day hour zoned ahead
    have ends : EndsFraction (offsetText west hours minutes) := by
      cases west <;> simp [EndsFraction, offsetText]
    have short : -1440 < ahead ∧ ahead < 1440 := by
      simp only [ahead, offsetMinutes]
      split <;> omega
    have found := dateTime?_of_zone read ends (Internet.offset?_offsetText west day hour)
    have earlier := t.isEarlier_minusMinutes short
    exact ⟨_, earlier, fun v => earlier.unique, found, fields_of_dateTime? found⟩

def LocalText.yearZero : LocalText where
  year := ⟨"0000".toList, rfl, List.all_eq_true.mp rfl⟩
  month := ⟨"01".toList, rfl, List.all_eq_true.mp rfl⟩
  day := ⟨"01".toList, rfl, List.all_eq_true.mp rfl⟩
  hour := ⟨"00".toList, rfl, List.all_eq_true.mp rfl⟩
  minute := ⟨"00".toList, rfl, List.all_eq_true.mp rfl⟩
  second := ⟨"60".toList, rfl, List.all_eq_true.mp rfl⟩
  fraction := "5".toList
  fraction_digits := List.all_eq_true.mp rfl

/-- A minute before the year 0 is in the year before it, and the leap second stays one. -/
theorem zoned_eq_local_yearZero :
    dateTime? "0000-01-01T00:00:60.5".toList =
      some ⟨⟨0, 1, 1, by decide⟩, ⟨0, 0, 60, 500000000, by decide⟩⟩ ∧
    dateTime? "0000-01-01T00:00:60.5+00:01".toList =
      some ⟨⟨-1, 12, 31, by decide⟩, ⟨23, 59, 60, 500000000, by decide⟩⟩ ∧
    Scalar.ofText? .date "0000-01-01T00:00:60.5+00:01".toList =
      some (.date ⟨-1, 12, 31, by decide⟩) := by
  have read : dateTime? LocalText.yearZero.text =
      some ⟨⟨0, 1, 1, by decide⟩, ⟨0, 0, 60, 500000000, by decide⟩⟩ := by decide +kernel
  obtain ⟨-, zoned⟩ := zoned_eq_local read
  obtain ⟨u, -, unique, moved, -, day⟩ := zoned false ⟨"00".toList, rfl, List.all_eq_true.mp rfl⟩
    ⟨"01".toList, rfl, List.all_eq_true.mp rfl⟩ (by decide) (by decide)
  obtain rfl := unique ⟨⟨-1, 12, 31, by decide⟩, ⟨23, 59, 60, 500000000, by decide⟩⟩
    ⟨by decide, rfl, rfl⟩
  exact ⟨read, moved, day⟩

end QueryFilter.Calendar
