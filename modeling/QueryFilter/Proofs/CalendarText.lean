import Mathlib.Data.List.TakeWhile
import QueryFilter.Calendar.Reading

/-!
# Written dates and date-times read back

A date that is written is matched by the date pattern (`date?_render`), and a written date-time by
the first of the date-time patterns, since it has no zone (`dateTime?_render`). Both are so for the
years that a value may have, and whatever is read is in them (`inRange_of_dateTime?`).
-/

namespace QueryFilter

/-! ### Padded numbers -/

namespace Decimal

theorem isDigit_of_mem_padded {width n : Nat} {c : Char} (member : c ∈ padded width n) :
    c.isDigit = true := by
  rcases List.mem_append.mp member with zero | digit
  · rw [(List.mem_replicate.mp zero).2]
    rfl
  · exact Nat.isDigit_of_mem_toDigits (by decide) (by decide) digit

@[simp] theorem padded_ne_nil (width n : Nat) : padded width n ≠ [] := by
  simp [padded, Nat.toDigits_ne_nil]

theorem length_padded {width n : Nat} (wide : 0 < width) (fits : n < Nat.pow 10 width) :
    (padded width n).length = width := by
  have short : (Nat.toDigits 10 n).length ≤ width :=
    (Nat.length_toDigits_le_iff (by decide) wide).mpr fits
  simp only [padded, List.length_append, List.length_replicate]
  omega

@[simp] theorem ofDigitChars_padded (width n : Nat) :
    Nat.ofDigitChars 10 (padded width n) 0 = n := by
  simp [padded, Nat.ofDigitChars_append]

theorem digitsExactly?_append {width : Nat} {digits : List Char} (length : digits.length = width)
    (all : ∀ c ∈ digits, c.isDigit = true) (rest : List Char) :
    digitsExactly? width (digits ++ rest) = some (Nat.ofDigitChars 10 digits 0, rest) := by
  have front : (digits ++ rest).take width = digits := List.take_left' length
  have back : (digits ++ rest).drop width = rest := List.drop_left' length
  have every : digits.all Char.isDigit = true := List.all_eq_true.mpr all
  simp only [digitsExactly?, front, back, length, every, and_self, ↓reduceIte]

theorem digitsExactly?_padded {width n : Nat} (wide : 0 < width) (fits : n < Nat.pow 10 width)
    (rest : List Char) : digitsExactly? width (padded width n ++ rest) = some (n, rest) := by
  rw [digitsExactly?_append (length_padded wide fits) (fun _ => isDigit_of_mem_padded),
    ofDigitChars_padded]

theorem toNat_of_isDigit {c : Char} (digit : c.isDigit = true) :
    48 ≤ c.toNat ∧ c.toNat ≤ 57 := by
  simpa [Char.isDigit, UInt32.le_iff_toNat_le] using digit

theorem ofDigitChars_lt {s : List Char} (digits : ∀ c ∈ s, c.isDigit = true) :
    Nat.ofDigitChars 10 s 0 < Nat.pow 10 s.length := by
  induction s with
  | nil => exact Nat.one_pos
  | cons c rest ih =>
    have tail := ih fun d member => digits d (List.mem_cons_of_mem _ member)
    have digit : 48 ≤ c.toNat ∧ c.toNat ≤ 57 := toNat_of_isDigit (digits c List.mem_cons_self)
    have value : 10 * 0 + (c.toNat - '0'.toNat) ≤ 9 := by
      have zero : '0'.toNat = 48 := rfl
      omega
    have scaled := Nat.mul_le_mul_left (Nat.pow 10 rest.length) value
    rw [Nat.ofDigitChars_cons, Nat.ofDigitChars_eq_ofDigitChars_zero, List.length_cons]
    show Nat.pow 10 rest.length * _ + _ < Nat.pow 10 rest.length * 10
    omega

theorem lt_of_digitsExactly? {width n : Nat} {s rest : List Char}
    (read : digitsExactly? width s = some (n, rest)) : n < Nat.pow 10 width := by
  unfold digitsExactly? at read
  dsimp only at read
  split at read
  · rename_i found
    obtain ⟨rfl, -⟩ := Prod.mk.inj (Option.some.inj read)
    have bound := ofDigitChars_lt (List.all_eq_true.mp found.2)
    rwa [found.1] at bound
  · exact nomatch read

end Decimal

theorem Text.not_isBlank_of_isDigit {c : Char} (digit : c.isDigit = true) : isBlank c = false := by
  have range := Decimal.toNat_of_isDigit digit
  simp only [isBlank, Bool.or_eq_false_iff, Bool.and_eq_false_iff, decide_eq_false_iff_not,
    beq_eq_false_iff_ne]
  omega

namespace Calendar

open Decimal (padded padded_ne_nil isDigit_of_mem_padded ofDigitChars_padded length_padded)

/-- A digit does not continue the number in front. -/
def EndsNumber (rest : List Char) : Prop := ∀ c ∈ rest.head?, c.isDigit = false

theorem takeWhile_isDigit_append {digits rest : List Char}
    (all : ∀ c ∈ digits, c.isDigit = true) (ends : EndsNumber rest) :
    (digits ++ rest).takeWhile Char.isDigit = digits ∧
      (digits ++ rest).dropWhile Char.isDigit = rest := by
  have stops : rest.takeWhile Char.isDigit = [] ∧ rest.dropWhile Char.isDigit = rest := by
    cases rest with
    | nil => exact ⟨rfl, rfl⟩
    | cons c _ => simp [ends c rfl]
  rw [List.takeWhile_append_of_pos all, List.dropWhile_append_of_pos all, stops.1, stops.2,
    List.append_nil]
  exact ⟨rfl, rfl⟩

theorem leadingNumber?_append {digits rest : List Char} (nonempty : digits ≠ [])
    (all : ∀ c ∈ digits, c.isDigit = true) (ends : EndsNumber rest) :
    leadingNumber? (digits ++ rest) = some (Nat.ofDigitChars 10 digits 0, rest) := by
  obtain ⟨whole, behind⟩ := takeWhile_isDigit_append all ends
  rw [leadingNumber?, whole, behind]
  exact if_neg nonempty

theorem leadingNumber?_padded (width n : Nat) {rest : List Char} (ends : EndsNumber rest) :
    leadingNumber? (padded width n ++ rest) = some (n, rest) := by
  rw [leadingNumber?_append (padded_ne_nil width n) (fun _ => isDigit_of_mem_padded) ends,
    ofDigitChars_padded]

theorem numberUpTo?_append {width : Nat} {digits : List Char} (wide : 0 < width)
    (length : digits.length = width) (all : ∀ c ∈ digits, c.isDigit = true) (rest : List Char) :
    numberUpTo? width (digits ++ rest) = some (Nat.ofDigitChars 10 digits 0, rest) := by
  have ends : EndsNumber [] := by simp [EndsNumber]
  have nonempty : digits ≠ [] := List.length_pos_iff.mp (length ▸ wide)
  have number := leadingNumber?_append nonempty all ends
  rw [List.append_nil] at number
  rw [numberUpTo?, List.take_left' length, List.drop_left' length, number]
  rfl

theorem numberUpTo?_padded {width n : Nat} (wide : 0 < width) (fits : n < Nat.pow 10 width)
    (rest : List Char) : numberUpTo? width (padded width n ++ rest) = some (n, rest) := by
  rw [numberUpTo?_append wide (length_padded wide fits) (fun _ => isDigit_of_mem_padded),
    ofDigitChars_padded]

theorem trimStart_digits {digits : List Char} (nonempty : digits ≠ [])
    (all : ∀ c ∈ digits, c.isDigit = true) (rest : List Char) :
    Text.trimStart (digits ++ rest) = digits ++ rest := by
  obtain ⟨c, more, rfl⟩ := List.exists_cons_of_ne_nil nonempty
  have solid := Text.not_isBlank_of_isDigit (all c List.mem_cons_self)
  exact List.dropWhile_cons_of_neg (by simp [solid])

theorem trimStart_padded (width n : Nat) (rest : List Char) :
    Text.trimStart (padded width n ++ rest) = padded width n ++ rest :=
  trimStart_digits (padded_ne_nil width n) (fun _ => isDigit_of_mem_padded) rest

theorem read_two {n : Nat} (fits : n < 100) (rest : List Char) :
    numberUpTo? 2 (Text.trimStart (padded 2 n ++ rest)) = some (n, rest) := by
  rw [trimStart_padded]
  exact numberUpTo?_padded (by decide) fits rest

/-! ### Dates -/

/-- A year that starts with a digit has no sign. -/
theorem readYear?_of_isDigit {digits : List Char} (nonempty : digits ≠ [])
    (all : ∀ c ∈ digits, c.isDigit = true) (rest : List Char) :
    readYear? (Text.trimStart (digits ++ rest)) =
      (numberUpTo? 4 (digits ++ rest)).map fun (n, rest) => ((n : Int), rest) := by
  rw [trimStart_digits nonempty all]
  obtain ⟨c, more, rfl⟩ := List.exists_cons_of_ne_nil nonempty
  have digit : c.isDigit = true := all c List.mem_cons_self
  rw [List.cons_append]
  unfold readYear?
  split
  · rename_i sign
    exact absurd ((List.cons.inj sign).1 ▸ digit) (by decide)
  · rename_i sign
    exact absurd ((List.cons.inj sign).1 ▸ digit) (by decide)
  · rfl

theorem readYear?_renderYear (year : Int) {rest : List Char} (ends : EndsNumber rest) :
    readYear? (Text.trimStart (Date.renderYear year ++ rest)) = some (year, rest) := by
  unfold Date.renderYear
  split
  · rename_i plain
    have fits : year.toNat < Nat.pow 10 4 := by show year.toNat < 10000; omega
    rw [readYear?_of_isDigit (padded_ne_nil 4 year.toNat) (fun _ => isDigit_of_mem_padded),
      numberUpTo?_padded (by decide) fits]
    simp only [Option.map_some, Option.some.injEq, Prod.mk.injEq, and_true]
    omega
  · -- Behind a sign the digits may be more than four, and what ends them is no digit.
    have number := leadingNumber?_padded 4 year.natAbs ends
    split
    all_goals
      refine (congrArg (Option.map _) number).trans ?_
      simp only [Option.map_some, Option.some.injEq, Prod.mk.injEq, and_true]
      omega

theorem endsNumber_cons {c : Char} (rest : List Char) (solid : c.isDigit = false) :
    EndsNumber (c :: rest) := by
  simpa [EndsNumber] using solid

theorem Date.fields_lt (d : Date) : d.month < 100 ∧ d.day < 100 := by
  have valid := d.valid
  have last : daysInMonth d.year d.month ≤ 31 := by
    unfold daysInMonth
    repeat' split
    all_goals omega
  omega

@[simp] theorem Date.ofParts?_self (d : Date) : ofParts? d.year d.month d.day = some d :=
  dif_pos d.valid

/-- The date pattern takes a written date and leaves what follows to the items behind it. -/
theorem readFrom?_date (d : Date) (items : Pattern) (fields : PatternFields) (rest : List Char) :
    (Pattern.date ++ items).readFrom? fields (d.render ++ rest) =
      Pattern.readFrom? items { fields with year := d.year, month := d.month, day := d.day }
        rest := by
  obtain ⟨month, day⟩ := d.fields_lt
  have year := readYear?_renderYear d.year
    (endsNumber_cons (c := '-') (padded 2 d.month ++ '-' :: (padded 2 d.day ++ rest)) rfl)
  have text : d.render ++ rest =
      Date.renderYear d.year ++ '-' :: (padded 2 d.month ++ '-' :: (padded 2 d.day ++ rest)) := by
    simp [Date.render]
  rw [text]
  simp only [Pattern.date, List.cons_append, List.nil_append, Pattern.readFrom?,
    PatternItem.read?, year, read_two month, read_two day, Option.map_some, Option.bind_some,
    ↓reduceIte]

theorem readDate?_render {d : Date} (range : d.inRange = true) :
    readDate? d.render = some d := by
  have read := readFrom?_date d [] {} []
  simp only [List.append_nil] at read
  simp only [readDate?, Pattern.read?, read, Pattern.readFrom?, ↓reduceIte, Option.bind_some,
    PatternFields.date?, Date.ofParts?_self, Option.filter_some, range]

/-! ### Times -/

theorem nanosecondsOf_padded {width n : Nat} (wide : 0 < width) (small : width ≤ 9)
    (fits : n < Nat.pow 10 width) :
    nanosecondsOf (padded width n) = n * Nat.pow 10 (9 - width) := by
  have length := length_padded wide fits
  simp only [nanosecondsOf, List.take_of_length_le (length.trans_le small), length,
    ofDigitChars_padded]

theorem readFraction?_append {digits rest : List Char} (nonempty : digits ≠ [])
    (all : ∀ c ∈ digits, c.isDigit = true) (ends : EndsNumber rest) :
    readFraction? ('.' :: (digits ++ rest)) = some (nanosecondsOf digits, rest) := by
  obtain ⟨whole, behind⟩ := takeWhile_isDigit_append all ends
  simp only [readFraction?, whole, behind, nonempty, ↓reduceIte]

theorem readFraction?_padded {width n : Nat} (wide : 0 < width) (small : width ≤ 9)
    (fits : n < Nat.pow 10 width) :
    readFraction? ('.' :: padded width n) = some (n * Nat.pow 10 (9 - width), []) := by
  have ends : EndsNumber [] := by simp [EndsNumber]
  have read := readFraction?_append (padded_ne_nil width n) (fun _ => isDigit_of_mem_padded) ends
  rwa [List.append_nil, nanosecondsOf_padded wide small fits] at read

/-- A fraction is written with as many digits as it needs of three, six or nine. -/
theorem readFraction?_renderFraction {n : Nat} (range : n < 1000000000) :
    readFraction? (Time.renderFraction n) = some (n, []) := by
  unfold Time.renderFraction
  split
  · rename_i zero
    rw [zero]
    rfl
  split
  · rename_i divides
    rw [readFraction?_padded (by decide) (by decide) (by show n / 1000000 < 1000; omega)]
    have value : n / 1000000 * 1000000 = n := by omega
    exact congrArg some (Prod.ext value rfl)
  split
  · rename_i divides
    rw [readFraction?_padded (by decide) (by decide) (by show n / 1000 < 1000000; omega)]
    have value : n / 1000 * 1000 = n := by omega
    exact congrArg some (Prod.ext value rfl)
  · rw [readFraction?_padded (by decide) (by decide) (by show n < 1000000000; omega)]
    exact congrArg some (Prod.ext (Nat.mul_one n) rfl)

@[simp] theorem Time.ofParts?_self (t : Time) :
    ofParts? t.hour t.minute t.second t.nanosecond = some t := dif_pos t.valid

theorem Time.render_eq (t : Time) : t.render = padded 2 t.hour ++ ':' ::
    (padded 2 t.minute ++ ':' :: (padded 2 t.second ++ Time.renderFraction t.nanosecond)) := by
  simp [Time.render]

theorem readFrom?_seconds (t : Time) (fields : PatternFields) :
    Pattern.seconds.readFrom? fields t.render =
      some { fields with hour := t.hour, minute := t.minute, second := t.second,
                         nanosecond := t.nanosecond } := by
  obtain ⟨hour, minute, second, nanosecond⟩ := t.valid
  rw [Time.render_eq]
  simp only [Pattern.seconds, Pattern.minutes, List.cons_append, List.nil_append,
    Pattern.readFrom?, PatternItem.read?, read_two (show t.hour < 100 by omega),
    read_two (show t.minute < 100 by omega), read_two (show t.second < 100 by omega),
    readFraction?_renderFraction nanosecond, Option.map_some, Option.bind_some, ↓reduceIte]

/-! ### Date-times -/

theorem Internet.two?_padded {n : Nat} (fits : n < 100) (rest : List Char) :
    two? (padded 2 n ++ rest) = some (n, rest) :=
  Decimal.digitsExactly?_padded (by decide) fits rest

@[simp] theorem Internet.expect?_cons (c : Char) (rest : List Char) :
    expect? c (c :: rest) = some rest :=
  if_pos rfl

theorem Internet.localDateTime?_render {t : DateTime}
    (plain : 0 ≤ t.date.year ∧ t.date.year ≤ 9999) : localDateTime? t.render = some (t, []) := by
  obtain ⟨month, day⟩ := t.date.fields_lt
  obtain ⟨hour, minute, second, nanosecond⟩ := t.time.valid
  have value : (t.date.year.toNat : Int) = t.date.year := Int.toNat_of_nonneg plain.1
  have fits : t.date.year.toNat < Nat.pow 10 4 := by
    show t.date.year.toNat < 10000
    omega
  have text : t.render = padded 4 t.date.year.toNat ++ '-' :: (padded 2 t.date.month ++
      '-' :: (padded 2 t.date.day ++ ' ' :: t.time.render)) := by
    simp [DateTime.render, Date.render, Date.renderYear, plain]
  have separated (rest : List Char) : separator? (' ' :: rest) = some rest := by
    simp [separator?]
  have date : Date.ofParts? t.date.year.toNat t.date.month t.date.day = some t.date := by
    rw [value, Date.ofParts?_self]
  rw [text, Time.render_eq]
  simp only [localDateTime?, ↓Option.bind_eq_bind, ↓Option.bind_eq_some_iff, Prod.exists]
  refine ⟨_, _, Decimal.digitsExactly?_padded (by decide) fits _, _, expect?_cons _ _, ?_⟩
  refine ⟨_, _, two?_padded month _, _, expect?_cons _ _, ?_⟩
  refine ⟨_, _, two?_padded day _, _, separated _, ?_⟩
  refine ⟨_, _, two?_padded (by omega) _, _, expect?_cons _ _, ?_⟩
  refine ⟨_, _, two?_padded (by omega) _, _, expect?_cons _ _, ?_⟩
  refine ⟨_, _, two?_padded (by omega) _, ?_⟩
  exact ⟨_, _, readFraction?_renderFraction nanosecond, _, date, _, t.time.ofParts?_self, rfl⟩

/-- A written date-time is not an Internet timestamp: it has no zone. -/
theorem Internet.dateTime?_render (t : DateTime) : Internet.dateTime? t.render = none := by
  by_cases plain : 0 ≤ t.date.year ∧ t.date.year ≤ 9999
  · rw [Internet.dateTime?, localDateTime?_render plain]
    rfl
  · -- A year with a sign is already refused.
    have signed : ∃ sign rest, t.render = sign :: rest ∧ sign.isDigit = false := by
      simp only [DateTime.render, Date.render, Date.renderYear, if_neg plain, List.cons_append]
      refine ⟨_, _, rfl, ?_⟩
      split <;> rfl
    obtain ⟨sign, rest, text, solid⟩ := signed
    rw [Internet.dateTime?, localDateTime?, text]
    simp [Decimal.digitsExactly?, solid]

theorem readPattern?_render {t : DateTime} (range : t.date.inRange = true) :
    readPattern? (Pattern.date ++ [.blanks] ++ Pattern.seconds) t.render = some t := by
  have blank (fields : PatternFields) :
      Pattern.readFrom? ([.blanks] ++ Pattern.seconds) fields (' ' :: t.time.render) =
        Pattern.seconds.readFrom? fields t.time.render := by
    have start : Text.trimStart (' ' :: t.time.render) = t.time.render := by
      rw [Time.render_eq]
      exact trimStart_padded ..
    simp only [List.cons_append, List.nil_append, Pattern.readFrom?, PatternItem.read?, start,
      Option.bind_some]
  have read := readFrom?_date t.date ([.blanks] ++ Pattern.seconds) {} (' ' :: t.time.render)
  rw [← List.append_assoc, blank, readFrom?_seconds] at read
  simp only [readPattern?, Pattern.read?, DateTime.render, read, Option.bind_some,
    PatternFields.dateTime?, PatternFields.date?, Date.ofParts?_self, Option.filter_some, range,
    ↓reduceIte, Time.ofParts?_self, Option.map_some]

theorem dateTime?_render {t : DateTime} (range : t.date.inRange = true) :
    dateTime? t.render = some t := by
  have read := readPattern?_render range
  simp only [dateTime?, Internet.dateTime?_render, Option.none_or, Pattern.dateTimes,
    List.findSome?_cons, read, Option.some_or]

theorem date?_render {d : Date} (range : d.inRange = true) : date? d.render = some d := by
  rw [date?, readDate?_render range, Option.some_or]

/-! ### The years of what is read -/

theorem Date.year_of_ofParts? {year : Int} {month day : Nat} {d : Date}
    (made : ofParts? year month day = some d) : d.year = year := by
  unfold ofParts? at made
  split at made
  · obtain rfl := Option.some.inj made
    rfl
  · cases made

theorem Date.year_next (d : Date) : d.year ≤ d.next.year ∧ d.next.year ≤ d.year + 1 := by
  unfold next
  split
  · exact ⟨Int.le_refl _, by dsimp only; omega⟩
  · split <;> constructor <;> dsimp only <;> omega

theorem Date.year_previous (d : Date) :
    d.year - 1 ≤ d.previous.year ∧ d.previous.year ≤ d.year := by
  unfold previous
  split
  · exact ⟨by dsimp only; omega, Int.le_refl _⟩
  · split <;> constructor <;> dsimp only <;> omega

theorem DateTime.year_minusMinutes (t : DateTime) (minutes : Int) :
    t.date.year - 1 ≤ (t.minusMinutes minutes).date.year ∧
      (t.minusMinutes minutes).date.year ≤ t.date.year + 1 := by
  have before := t.date.year_previous
  have after := t.date.year_next
  unfold minusMinutes
  dsimp only
  split
  · exact ⟨before.1, by dsimp only; omega⟩
  · split
    · constructor <;> dsimp only <;> omega
    · exact ⟨by dsimp only; omega, after.2⟩

/-- A timestamp has a year of four digits, from which a zone leads one year away at most. -/
theorem Internet.year_of_dateTime? {s : List Char} {t : DateTime}
    (read : Internet.dateTime? s = some t) : -1 ≤ t.date.year ∧ t.date.year ≤ 10000 := by
  unfold Internet.dateTime? at read
  obtain ⟨⟨near, rest⟩, found, read⟩ := Option.bind_eq_some_iff.mp read
  obtain ⟨⟨ahead, rest⟩, -, read⟩ := Option.bind_eq_some_iff.mp read
  have moved : t = near.minusMinutes ahead := by
    dsimp only at read
    split at read
    · exact (Option.some.inj read).symm
    · exact nomatch read
  have year : 0 ≤ near.date.year ∧ near.date.year ≤ 9999 := by
    -- Of all that is read in turn only the four digits of the year matter.
    simp only [localDateTime?, ↓Option.bind_eq_bind, ↓Option.bind_eq_some_iff,
      Prod.exists] at found
    obtain ⟨year, _, digits, _, -, month, _, -, _, -, day, _, -, _, -, hour, _, -, _, -, minute,
      _, -, _, -, second, _, -, nanosecond, _, -, date, made, time, -, same⟩ := found
    obtain ⟨rfl, -⟩ := Prod.mk.inj (Option.some.inj same)
    have written : date.year = year := Date.year_of_ofParts? made
    have bound : year < 10000 := Decimal.lt_of_digitsExactly? digits
    dsimp only
    omega
  have bounds := near.year_minusMinutes ahead
  rw [moved]
  omega

theorem inRange_of_readDate? {s : List Char} {d : Date} (read : readDate? s = some d) :
    d.inRange = true := by
  obtain ⟨fields, -, made⟩ := Option.bind_eq_some_iff.mp read
  exact (Option.filter_eq_some_iff.mp made).2

theorem inRange_of_readPattern? {p : Pattern} {s : List Char} {t : DateTime}
    (read : readPattern? p s = some t) : t.date.inRange = true := by
  obtain ⟨fields, -, made⟩ := Option.bind_eq_some_iff.mp read
  obtain ⟨date, found, made⟩ := Option.bind_eq_some_iff.mp made
  obtain ⟨time, -, rfl⟩ := Option.map_eq_some_iff.mp made
  exact (Option.filter_eq_some_iff.mp found).2

theorem inRange_of_dateTime? {s : List Char} {t : DateTime} (read : dateTime? s = some t) :
    t.date.inRange = true := by
  rcases Option.or_eq_some_iff.mp read with read | ⟨-, read⟩
  · have years := Internet.year_of_dateTime? read
    simp only [Date.inRange, Bool.and_eq_true, decide_eq_true_eq]
    omega
  rcases Option.or_eq_some_iff.mp read with read | ⟨-, read⟩
  · obtain ⟨p, -, read⟩ := List.exists_of_findSome?_eq_some read
    exact inRange_of_readPattern? read
  · obtain ⟨date, found, rfl⟩ := Option.map_eq_some_iff.mp read
    exact inRange_of_readDate? found

theorem inRange_of_date? {s : List Char} {d : Date} (read : date? s = some d) :
    d.inRange = true := by
  rcases Option.or_eq_some_iff.mp read with read | ⟨-, read⟩
  · exact inRange_of_readDate? read
  · obtain ⟨t, found, rfl⟩ := Option.map_eq_some_iff.mp read
    exact inRange_of_dateTime? found

end Calendar

end QueryFilter
