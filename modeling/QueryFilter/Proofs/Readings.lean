import QueryFilter.Proofs.CalendarText
import QueryFilter.Proofs.Decoding

/-!
# One reading for a date-time

A text that a pattern matches has each mark of the pattern as often as the pattern itself
(`Pattern.count_of_read?`), and a timestamp has the mark of its zone. No two readings of a
date-time have the same marks, so that the order in which they are tried does not matter
(`readings_exclusive`), and a date is the day of a date-time (`date?_eq_map_dateTime?`).
-/

namespace QueryFilter.Calendar

/-! ### Marks -/

/-- Whether numbers with their signs and fractions, and the blanks around them, may have the
character. What is left are marks. -/
def isNumeric (c : Char) : Bool :=
  c.isDigit || Text.isBlank c || c == '-' || c == '+' || c == '.'

/-- In `s` the text `rest` comes behind a text that has the mark `n` times. -/
def Behind (mark : Char) (n : Nat) (s rest : List Char) : Prop :=
  ∃ front, s = front ++ rest ∧ front.count mark = n

namespace Behind

variable {mark : Char} {m n : Nat} {s t rest : List Char}

theorem refl (mark : Char) (s : List Char) : Behind mark 0 s s := ⟨[], rfl, rfl⟩

theorem trans (first : Behind mark m s t) (second : Behind mark n t rest) :
    Behind mark (m + n) s rest := by
  obtain ⟨front, rfl, marks⟩ := first
  obtain ⟨more, rfl, others⟩ := second
  exact ⟨front ++ more, (List.append_assoc ..).symm, by rw [List.count_append, marks, others]⟩

theorem self (mark : Char) (rest : List Char) : Behind mark 1 (mark :: rest) rest :=
  ⟨[mark], rfl, by simp⟩

theorem cons {c : Char} (other : c ≠ mark) (later : Behind mark n s rest) :
    Behind mark n (c :: s) rest := by
  obtain ⟨front, rfl, marks⟩ := later
  exact ⟨c :: front, rfl, by rw [List.count_cons_of_ne other, marks]⟩

theorem count_eq (behind : Behind mark n s rest) : s.count mark = n + rest.count mark := by
  obtain ⟨front, rfl, rfl⟩ := behind
  exact List.count_append

end Behind

/-! ### What the readers take -/

section
variable {mark : Char} (solid : isNumeric mark = false) {s rest : List Char}

include solid

theorem ne_mark {c : Char} (numeric : isNumeric c = true) : c ≠ mark := by
  rintro rfl
  rw [solid] at numeric
  exact nomatch numeric

theorem behind_of_numeric {front : List Char} (numeric : ∀ c ∈ front, isNumeric c = true)
    (rest : List Char) : Behind mark 0 (front ++ rest) rest :=
  ⟨front, rfl, List.count_eq_zero_of_not_mem fun found => ne_mark solid (numeric _ found) rfl⟩

theorem behind_of_digits {front : List Char} (digits : ∀ c ∈ front, c.isDigit = true)
    (rest : List Char) : Behind mark 0 (front ++ rest) rest := by
  have numeric : ∀ c ∈ front, isNumeric c = true := fun c found => by
    simp [isNumeric, digits c found]
  exact behind_of_numeric solid numeric rest

theorem behind_trimStart (s : List Char) : Behind mark 0 s (Text.trimStart s) := by
  have numeric : ∀ c ∈ s.takeWhile Text.isBlank, isNumeric c = true := fun c found => by
    simp [isNumeric, List.mem_takeWhile_imp found]
  have blanks := behind_of_numeric solid numeric (s.dropWhile Text.isBlank)
  rwa [List.takeWhile_append_dropWhile] at blanks

theorem behind_dropWhile_isDigit (s : List Char) : Behind mark 0 s (s.dropWhile Char.isDigit) := by
  have digits : ∀ c ∈ s.takeWhile Char.isDigit, c.isDigit = true := fun c found =>
    List.mem_takeWhile_imp found
  have front := behind_of_digits solid digits (s.dropWhile Char.isDigit)
  rwa [List.takeWhile_append_dropWhile] at front

theorem behind_of_leadingNumber? {n : Nat} (read : leadingNumber? s = some (n, rest)) :
    Behind mark 0 s rest := by
  unfold leadingNumber? at read
  dsimp only at read
  split at read
  · exact nomatch read
  · obtain ⟨-, rfl⟩ := Prod.mk.inj (Option.some.inj read)
    exact behind_dropWhile_isDigit solid s

theorem behind_of_numberUpTo? {width n : Nat} (read : numberUpTo? width s = some (n, rest)) :
    Behind mark 0 s rest := by
  obtain ⟨⟨m, left⟩, number, same⟩ := Option.map_eq_some_iff.mp read
  obtain ⟨-, rfl⟩ := Prod.mk.inj same
  obtain ⟨front, taken, marks⟩ := behind_of_leadingNumber? solid number
  refine ⟨front, ?_, marks⟩
  rw [← List.append_assoc, ← taken, List.take_append_drop]

theorem behind_of_readYear? {year : Int} (read : readYear? s = some (year, rest)) :
    Behind mark 0 s rest := by
  unfold readYear? at read
  split at read
  all_goals
    obtain ⟨⟨n, left⟩, number, same⟩ := Option.map_eq_some_iff.mp read
    obtain ⟨-, rfl⟩ := Prod.mk.inj same
  · exact .cons (ne_mark solid rfl) (behind_of_leadingNumber? solid number)
  · exact .cons (ne_mark solid rfl) (behind_of_leadingNumber? solid number)
  · exact behind_of_numberUpTo? solid number

theorem behind_of_readFraction? {nanosecond : Nat}
    (read : readFraction? s = some (nanosecond, rest)) : Behind mark 0 s rest := by
  unfold readFraction? at read
  split at read
  · dsimp only at read
    split at read
    · exact nomatch read
    · obtain ⟨-, rfl⟩ := Prod.mk.inj (Option.some.inj read)
      exact .cons (ne_mark solid rfl) (behind_dropWhile_isDigit solid _)
  · obtain ⟨-, rfl⟩ := Prod.mk.inj (Option.some.inj read)
    exact .refl mark _

theorem behind_of_digitsExactly? {width n : Nat}
    (read : Decimal.digitsExactly? width s = some (n, rest)) : Behind mark 0 s rest := by
  unfold Decimal.digitsExactly? at read
  dsimp only at read
  split at read
  · rename_i found
    obtain ⟨-, rfl⟩ := Prod.mk.inj (Option.some.inj read)
    have front := behind_of_digits solid (List.all_eq_true.mp found.2) (s.drop width)
    rwa [List.take_append_drop] at front
  · exact nomatch read

/-! ### The marks of a pattern -/

theorem PatternItem.behind_of_read? {item : PatternItem} {fields after : PatternFields}
    (read : item.read? fields s = some (after, rest)) :
    Behind mark ([item].count (.literal mark)) s rest := by
  have blanks := behind_trimStart solid s
  cases item with
  | year =>
    obtain ⟨⟨n, left⟩, number, same⟩ := Option.map_eq_some_iff.mp read
    obtain ⟨-, rfl⟩ := Prod.mk.inj same
    exact blanks.trans (behind_of_readYear? solid number)
  | month | day | hour | minute | second =>
    obtain ⟨⟨n, left⟩, number, same⟩ := Option.map_eq_some_iff.mp read
    obtain ⟨-, rfl⟩ := Prod.mk.inj same
    exact blanks.trans (behind_of_numberUpTo? solid number)
  | fraction =>
    obtain ⟨⟨n, left⟩, number, same⟩ := Option.map_eq_some_iff.mp read
    obtain ⟨-, rfl⟩ := Prod.mk.inj same
    exact behind_of_readFraction? solid number
  | blanks =>
    obtain ⟨-, rfl⟩ := Prod.mk.inj (Option.some.inj read)
    exact blanks
  | literal c =>
    cases s with
    | nil => exact nomatch read
    | cons d left =>
      dsimp only [PatternItem.read?] at read
      split at read
      · rename_i same
        obtain ⟨-, rfl⟩ := Prod.mk.inj (Option.some.inj read)
        subst same
        by_cases here : d = mark
        · subst here
          simpa using Behind.self d left
        · simpa [here] using Behind.cons here (.refl mark left)
      · exact nomatch read

theorem Pattern.behind_of_readFrom? {p : Pattern} {fields after : PatternFields}
    (read : p.readFrom? fields s = some after) : Behind mark (p.count (.literal mark)) s [] := by
  induction p generalizing fields s with
  | nil =>
    rw [readFrom?] at read
    split at read
    · rename_i ended
      exact ended ▸ .refl mark []
    · cases read
  | cons item items ih =>
    obtain ⟨⟨middle, left⟩, taken, read⟩ := Option.bind_eq_some_iff.mp read
    have both := (item.behind_of_read? solid taken).trans (ih read)
    rwa [← List.count_append, List.singleton_append] at both

theorem Pattern.count_of_read? {p : Pattern} {fields : PatternFields}
    (read : p.read? s = some fields) : s.count mark = p.count (.literal mark) :=
  (p.behind_of_readFrom? solid read).count_eq

end

/-! ### The marks of a timestamp -/

namespace Internet

variable {mark : Char} {s rest : List Char}

theorem eq_cons_of_expect? {c : Char} (read : expect? c s = some rest) : s = c :: rest := by
  unfold expect? at read
  split at read
  · split at read
    · rename_i same
      rw [same, Option.some.inj read]
    · exact nomatch read
  · exact nomatch read

theorem behind_of_separator? (read : separator? s = some rest) : Behind ':' 0 s rest := by
  unfold separator? at read
  split at read
  · split at read
    · rename_i c left separates
      obtain rfl := Option.some.inj read
      refine .cons ?_ (.refl ':' left)
      rintro rfl
      exact absurd separates (by decide)
    · exact nomatch read
  · exact nomatch read

theorem behind_of_localDateTime? {t : DateTime} (read : localDateTime? s = some (t, rest)) :
    Behind ':' 2 s rest := by
  simp only [localDateTime?, ↓Option.bind_eq_bind, ↓Option.bind_eq_some_iff, Prod.exists] at read
  obtain ⟨year, _, year?, _, dash?, month, _, month?, _, dash'?, day, _, day?, _, separator?, hour,
    _, hour?, _, colon?, minute, _, minute?, _, colon'?, second, _, second?, nanosecond, _,
    fraction?, date, -, time, -, same⟩ := read
  obtain ⟨-, rfl⟩ := Prod.mk.inj (Option.some.inj same)
  have solid : isNumeric ':' = false := by decide
  obtain rfl := eq_cons_of_expect? dash?
  obtain rfl := eq_cons_of_expect? dash'?
  obtain rfl := eq_cons_of_expect? colon?
  obtain rfl := eq_cons_of_expect? colon'?
  have number {width n : Nat} {u v : List Char}
      (read : Decimal.digitsExactly? width u = some (n, v)) : Behind ':' 0 u v :=
    behind_of_digitsExactly? solid read
  have date : Behind ':' 0 s _ :=
    (number year?).trans <| .cons (by decide) <| (number month?).trans <| .cons (by decide) <|
      (number day?).trans (behind_of_separator? separator?)
  exact date.trans <| (number hour?).trans <| (Behind.self ':' _).trans <|
    (number minute?).trans <| (Behind.self ':' _).trans <|
      (number second?).trans (behind_of_readFraction? solid fraction?)

theorem behind_of_offsetSign? {west : Bool} (read : offsetSign? s = some (west, rest)) :
    Behind ':' 0 s rest := by
  unfold offsetSign? at read
  split at read
  · obtain ⟨-, rfl⟩ := Prod.mk.inj (Option.some.inj read)
    exact .cons (by decide) (.refl ':' _)
  · obtain ⟨-, rfl⟩ := Prod.mk.inj (Option.some.inj read)
    exact .cons (by decide) (.refl ':' _)
  · obtain ⟨-, rfl⟩ := Prod.mk.inj (Option.some.inj read)
    exact .cons (by decide) (.refl ':' _)
  · exact nomatch read

theorem zone_of_offset? {ahead : Int} (read : offset? s = some (ahead, rest)) :
    'Z' ∈ s ∨ 'z' ∈ s ∨ Behind ':' 1 s rest := by
  unfold offset? at read
  split at read
  · exact .inl List.mem_cons_self
  · exact .inr (.inl List.mem_cons_self)
  · simp only [↓Option.bind_eq_bind, ↓Option.bind_eq_some_iff, Prod.exists] at read
    obtain ⟨west, _, sign?, hours, _, hours?, _, colon?, minutes, _, minutes?, read⟩ := read
    split at read
    · obtain ⟨-, rfl⟩ := Prod.mk.inj (Option.some.inj read)
      obtain rfl := eq_cons_of_expect? colon?
      have solid : isNumeric ':' = false := by decide
      have front := (behind_of_offsetSign? sign?).trans (behind_of_digitsExactly? solid hours?)
      exact .inr (.inr (front.trans
        ((Behind.self ':' _).trans (behind_of_digitsExactly? solid minutes?))))
    · exact nomatch read

theorem marks_of_dateTime? {t : DateTime} (read : Internet.dateTime? s = some t) :
    0 < s.count 'Z' ∨ 0 < s.count 'z' ∨ s.count ':' = 3 := by
  obtain ⟨⟨near, left⟩, found, read⟩ := Option.bind_eq_some_iff.mp read
  obtain ⟨⟨ahead, last⟩, zone, read⟩ := Option.bind_eq_some_iff.mp read
  dsimp only at read
  split at read
  · rename_i ended
    subst ended
    have colons := behind_of_localDateTime? found
    obtain ⟨front, same, -⟩ := colons
    rcases zone_of_offset? zone with universal | universal | colon
    · exact .inl (List.count_pos_iff.mpr (same ▸ List.mem_append_right _ universal))
    · exact .inr (.inl (List.count_pos_iff.mpr (same ▸ List.mem_append_right _ universal)))
    · exact .inr (.inr ((behind_of_localDateTime? found).trans colon).count_eq)
  · exact nomatch read

end Internet

/-! ### The readings -/

/-- A bare date, as its midnight. -/
def midnight? (s : List Char) : Option DateTime :=
  (readDate? s).map fun date => ⟨date, .midnight⟩

/-- The readings of a date-time, in the order in which they are tried. -/
def readings : List (List Char → Option DateTime) :=
  Internet.dateTime? :: Pattern.dateTimes.map readPattern? ++ [midnight?]

theorem dateTime?_eq_findSome? (s : List Char) :
    dateTime? s = readings.findSome? fun reading => reading s := by
  have last : [midnight?].findSome? (fun reading => reading s) = midnight? s := by
    rw [List.findSome?_cons]
    cases midnight? s <;> rfl
  rw [readings, List.cons_append, List.findSome?_cons, List.findSome?_append, List.findSome?_map,
    last]
  unfold dateTime?
  cases Internet.dateTime? s <;> rfl

/-- The text has the marks of the pattern. -/
def Pattern.Marks (p : Pattern) (s : List Char) : Prop :=
  ∀ mark, isNumeric mark = false → s.count mark = p.count (.literal mark)

theorem marks_of_readPattern? {p : Pattern} {s : List Char} {t : DateTime}
    (read : readPattern? p s = some t) : p.Marks s := by
  intro mark solid
  obtain ⟨fields, matched, -⟩ := Option.bind_eq_some_iff.mp read
  exact p.count_of_read? solid matched

theorem marks_of_midnight? {s : List Char} {t : DateTime} (read : midnight? s = some t) :
    Pattern.date.Marks s := by
  intro mark solid
  obtain ⟨date, found, -⟩ := Option.map_eq_some_iff.mp read
  obtain ⟨fields, matched, -⟩ := Option.bind_eq_some_iff.mp found
  exact Pattern.date.count_of_read? solid matched

/-- Whether no text has the marks of both patterns. -/
def Pattern.Differs (p q : Pattern) : Prop :=
  p.count (.literal ':') ≠ q.count (.literal ':') ∨ p.count (.literal 'T') ≠ q.count (.literal 'T')

instance (p q : Pattern) : Decidable (p.Differs q) := by
  unfold Pattern.Differs
  infer_instance

theorem Pattern.Differs.exclusive {p q : Pattern} (differs : p.Differs q) {s : List Char} :
    p.Marks s → ¬ q.Marks s := by
  intro marks others
  have colons := (marks ':' (by decide)).symm.trans (others ':' (by decide))
  have letters := (marks 'T' (by decide)).symm.trans (others 'T' (by decide))
  exact differs.elim (fun differ => differ colons) (fun differ => differ letters)

theorem eq_none_or_eq_none {f g : Option DateTime}
    (exclusive : ∀ t u, f = some t → g = some u → False) : f = none ∨ g = none := by
  cases f with
  | none => exact .inl rfl
  | some t =>
    cases g with
    | none => exact .inr rfl
    | some u => exact absurd rfl (exclusive t u rfl)

theorem Internet.not_marks_of_dateTime? {s : List Char} {t : DateTime}
    (read : Internet.dateTime? s = some t) {p : Pattern}
    (plain : p ∈ Pattern.dateTimes ++ [Pattern.date]) : ¬ p.Marks s := by
  intro marks
  have zoneless : ∀ p ∈ Pattern.dateTimes ++ [Pattern.date], p.count (.literal 'Z') = 0 ∧
      p.count (.literal 'z') = 0 ∧ p.count (.literal ':') ≤ 2 := by decide
  have universal := marks 'Z' (by decide)
  have small := marks 'z' (by decide)
  have colons := marks ':' (by decide)
  have zone := Internet.marks_of_dateTime? read
  have none := zoneless p plain
  omega

/-- Of the readings of a text one succeeds at most. -/
theorem readings_exclusive (s : List Char) :
    readings.Pairwise fun f g => f s = none ∨ g s = none := by
  have patterns : Pattern.dateTimes.Pairwise Pattern.Differs := by decide
  have bare : ∀ p ∈ Pattern.dateTimes, p.Differs Pattern.date := by decide
  rw [readings, List.cons_append, List.pairwise_cons, List.pairwise_append]
  refine ⟨fun g member => ?_, List.pairwise_map.mpr (patterns.imp fun differs => ?_),
    List.pairwise_singleton _ _, fun f listed g last => ?_⟩
  · refine eq_none_or_eq_none fun t u zoned read => ?_
    rcases List.mem_append.mp member with listed | last
    · obtain ⟨p, dated, rfl⟩ := List.mem_map.mp listed
      exact Internet.not_marks_of_dateTime? zoned (List.mem_append_left _ dated)
        (marks_of_readPattern? read)
    · obtain rfl := List.mem_singleton.mp last
      exact Internet.not_marks_of_dateTime? zoned (by decide) (marks_of_midnight? read)
  · exact eq_none_or_eq_none fun t u read other =>
      differs.exclusive (marks_of_readPattern? read) (marks_of_readPattern? other)
  · obtain ⟨p, dated, rfl⟩ := List.mem_map.mp listed
    obtain rfl := List.mem_singleton.mp last
    exact eq_none_or_eq_none fun t u read other =>
      (bare p dated).exclusive (marks_of_readPattern? read) (marks_of_midnight? other)

/-! ### Consequences -/

theorem findSome?_eq_some_iff_of_exclusive {tried : List (List Char → Option DateTime)}
    {s : List Char} (exclusive : tried.Pairwise fun f g => f s = none ∨ g s = none)
    {t : DateTime} :
    tried.findSome? (fun reading => reading s) = some t ↔
      ∃ reading ∈ tried, reading s = some t := by
  constructor
  · exact List.exists_of_findSome?_eq_some
  · rintro ⟨reading, member, read⟩
    induction tried with
    | nil => exact nomatch member
    | cons first rest ih =>
      obtain ⟨apart, others⟩ := List.pairwise_cons.mp exclusive
      rw [List.findSome?_cons]
      rcases List.mem_cons.mp member with rfl | member
      · rw [read]
      · rcases apart reading member with none | none
        · rw [none]
          exact ih others member
        · exact absurd (none.symm.trans read) nofun

theorem dateTime?_eq_some_iff {s : List Char} {t : DateTime} :
    dateTime? s = some t ↔ ∃ reading ∈ readings, reading s = some t := by
  rw [dateTime?_eq_findSome?, findSome?_eq_some_iff_of_exclusive (readings_exclusive s)]

theorem findSome?_of_perm {tried : List (List Char → Option DateTime)} (perm : tried.Perm readings)
    (s : List Char) : tried.findSome? (fun reading => reading s) = dateTime? s := by
  have exclusive : tried.Pairwise fun f g => f s = none ∨ g s = none :=
    perm.symm.pairwise (readings_exclusive s) Or.symm
  refine Option.ext fun t => ?_
  rw [findSome?_eq_some_iff_of_exclusive exclusive, dateTime?_eq_some_iff]
  simp only [perm.mem_iff]

theorem dateTime?_of_match {p : Pattern} (tried : p ∈ Pattern.dateTimes) {s : List Char}
    {fields : PatternFields} (matched : p.read? s = some fields) :
    dateTime? s = fields.dateTime? := by
  have differ : ∀ p ∈ Pattern.dateTimes, ∀ q ∈ Pattern.dateTimes, p = q ∨ p.Differs q := by decide
  have bare : ∀ p ∈ Pattern.dateTimes, p.Differs Pattern.date := by decide
  have marks : p.Marks s := fun mark solid => p.count_of_read? solid matched
  have result : readPattern? p s = fields.dateTime? := by
    rw [readPattern?, matched, Option.bind_some]
  refine Option.ext fun t => ?_
  rw [dateTime?_eq_some_iff]
  constructor
  · rintro ⟨reading, listed, read⟩
    rcases List.mem_append.mp listed with listed | last
    · rcases List.mem_cons.mp listed with rfl | listed
      · exact absurd marks
          (Internet.not_marks_of_dateTime? read (List.mem_append_left _ tried))
      · obtain ⟨q, other, rfl⟩ := List.mem_map.mp listed
        rcases differ p tried q other with rfl | differs
        · rwa [result] at read
        · exact absurd (marks_of_readPattern? read) (differs.exclusive marks)
    · obtain rfl := List.mem_singleton.mp last
      exact absurd (marks_of_midnight? read) ((bare p tried).exclusive marks)
  · intro read
    have listed : readPattern? p ∈ readings :=
      List.mem_append_left _ (List.mem_cons_of_mem _ (List.mem_map_of_mem tried))
    exact ⟨_, listed, result.trans read⟩

theorem date?_eq_map_dateTime? (s : List Char) : date? s = (dateTime? s).map DateTime.date := by
  unfold date?
  cases bare : readDate? s with
  | none => rw [Option.none_or]
  | some date =>
    have midnight : midnight? s = some ⟨date, .midnight⟩ := by rw [midnight?, bare, Option.map_some]
    have listed : midnight? ∈ readings := List.mem_append_right _ (List.mem_singleton_self _)
    rw [Option.some_or, dateTime?_eq_some_iff.mpr ⟨_, listed, midnight⟩, Option.map_some]

theorem isSome_ofText?_date (s : List Char) :
    (Scalar.ofText? .date s).isSome = (Scalar.ofText? .dateTime s).isSome := by
  simp [Scalar.ofText?, date?_eq_map_dateTime?]

theorem exists_decode_date_iff (raw : String) (op : Operator) :
    (∃ value, FilterValue.decode raw .date op = .ok value) ↔
      ∃ value, FilterValue.decode raw .dateTime op = .ok value := by
  cases reads : op.readsValues with
  | false =>
    have free := FilterValue.exists_decode_of_not_reads reads raw
    exact iff_of_true (free .date) (free .dateTime)
  | true =>
    rw [FilterValue.decode_eq_ofParts reads, FilterValue.decode_eq_ofParts reads]
    by_cases blank : FilterValue.parts raw.toList = [[]]
    · simp [FilterValue.ofParts, blank, FilterValue.ofEmpty, FieldType.isText]
    · have nonempty := FilterValue.parts_ne_nil raw.toList
      have same (parts : List (List Char)) :
          FilterValue.unread? .date parts = FilterValue.unread? .dateTime parts := by
        simp only [FilterValue.unread?, ← Option.not_isSome, isSome_ofText?_date]
      rw [FilterValue.exists_ofParts_iff blank reads nonempty,
        FilterValue.exists_ofParts_iff blank reads nonempty, same]

/-- Of the readings of a date-time one succeeds at most, and a date is the day of a date-time. -/
theorem readings_unambiguous (s : List Char) :
    dateTime? s = readings.findSome? (fun reading => reading s) ∧
    readings.Pairwise (fun f g => f s = none ∨ g s = none) ∧
    (∀ tried : List (List Char → Option DateTime), tried.Perm readings →
      tried.findSome? (fun reading => reading s) = dateTime? s) ∧
    date? s = (dateTime? s).map DateTime.date ∧
    ∀ op, (∃ value, FilterValue.decode (String.ofList s) .date op = .ok value) ↔
      ∃ value, FilterValue.decode (String.ofList s) .dateTime op = .ok value :=
  ⟨dateTime?_eq_findSome? s, readings_exclusive s, fun _ perm => findSome?_of_perm perm s,
    date?_eq_map_dateTime? s, exists_decode_date_iff (String.ofList s)⟩

end QueryFilter.Calendar
