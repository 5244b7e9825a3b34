import Mathlib.Algebra.Order.Ring.Int
import Mathlib.Data.List.Induction
import QueryFilter.FilterValue

/-!
# Integers as text

A text spells an integer if it is a run of digits with one sign or none in front (`Decimal.Spells`).
The readers of the two integer types take every such text whose integer is in their range, and no
other (`integer?_eq_some_iff`, `bigInteger?_eq_some_iff`); which scalar they make of it depends on
the integer alone.
-/

namespace QueryFilter

namespace Decimal

/-- The digits of a number, perhaps with zeros in front. -/
inductive Digits : List Char → Nat → Prop
  | single {d : Nat} (small : d < 10) : Digits [Nat.digitChar d] d
  | snoc {s : List Char} {n d : Nat} (front : Digits s n) (small : d < 10) :
    Digits (s ++ [Nat.digitChar d]) (10 * n + d)

/-- An integer as digits with an optional sign in front. -/
inductive Spells : List Char → Int → Prop
  | bare {s : List Char} {n : Nat} (digits : Digits s n) : Spells s n
  | plus {s : List Char} {n : Nat} (digits : Digits s n) : Spells ('+' :: s) n
  | minus {s : List Char} {n : Nat} (digits : Digits s n) : Spells ('-' :: s) (-n)

/-! ### Digits -/

theorem exists_digitChar {c : Char} (digit : c.isDigit = true) :
    ∃ d < 10, c = Nat.digitChar d := by
  have bounds := Char.isDigit_iff_toNat.mp digit
  simp only [show '0'.toNat = 48 from rfl, show '9'.toNat = 57 from rfl] at bounds
  refine ⟨c.toNat - 48, by omega, Char.toNat_inj.mp ?_⟩
  rw [Nat.toNat_digitChar_of_lt_ten (by omega)]
  omega

theorem ofDigitChars_snoc (s : List Char) {d : Nat} (small : d < 10) :
    Nat.ofDigitChars 10 (s ++ [Nat.digitChar d]) 0 = 10 * Nat.ofDigitChars 10 s 0 + d := by
  have value : (Nat.digitChar d).toNat - '0'.toNat = d := by
    rw [Nat.toNat_digitChar_of_lt_ten small]
    exact Nat.add_sub_cancel_left 48 d
  rw [Nat.ofDigitChars_append, Nat.ofDigitChars_cons, Nat.ofDigitChars_nil, value]

theorem Digits.all_isDigit {s : List Char} {n : Nat} (digits : Digits s n) :
    s.all Char.isDigit = true := by
  induction digits with
  | single small => simp [Nat.isDigit_digitChar, small]
  | snoc _ small ih => simp [List.all_append, ih, Nat.isDigit_digitChar, small]

theorem Digits.ne_nil {s : List Char} {n : Nat} (digits : Digits s n) : s ≠ [] := by
  cases digits with
  | single => exact List.cons_ne_nil _ _
  | snoc => exact List.append_ne_nil_of_right_ne_nil _ (List.cons_ne_nil _ _)

theorem Digits.head?_ne_minus {s : List Char} {n : Nat} (digits : Digits s n) :
    s.head? ≠ some '-' := by
  intro minus
  have digit := List.all_eq_true.mp digits.all_isDigit _ (List.mem_of_mem_head? minus)
  exact absurd digit (by decide)

theorem Digits.value_eq {s : List Char} {n : Nat} (digits : Digits s n) :
    Nat.ofDigitChars 10 s 0 = n := by
  induction digits with
  | single small => simpa using ofDigitChars_snoc [] small
  | snoc _ small ih => rw [ofDigitChars_snoc _ small, ih]

theorem digits_of_all_isDigit {s : List Char} (nonempty : s ≠ [])
    (all : s.all Char.isDigit = true) : Digits s (Nat.ofDigitChars 10 s 0) := by
  induction s using List.reverseRecOn with
  | nil => exact absurd rfl nonempty
  | append_singleton front c ih =>
    simp only [List.all_append, Bool.and_eq_true, List.all_cons, List.all_nil, Bool.and_true] at all
    obtain ⟨d, small, rfl⟩ := exists_digitChar all.2
    rw [ofDigitChars_snoc _ small]
    by_cases first : front = []
    · subst first
      simpa [Nat.ofDigitChars_nil] using Digits.single small
    · exact .snoc (ih first all.1) small

theorem natural?_eq_some_iff {s : List Char} {n : Nat} : natural? s = some n ↔ Digits s n := by
  unfold natural?
  constructor
  · intro read
    split at read
    · rename_i digits
      obtain rfl := Option.some.inj read
      exact digits_of_all_isDigit digits.1 digits.2
    · exact nomatch read
  · intro digits
    rw [if_pos ⟨digits.ne_nil, digits.all_isDigit⟩, digits.value_eq]

/-! ### Signs -/

theorem unsigned?_of_digits {s : List Char} (digits : s.all Char.isDigit = true) :
    unsigned? s = natural? s := by
  unfold unsigned?
  split
  · simp [Char.isDigit] at digits
  · rfl

theorem integer?_eq_some_iff {s : List Char} {n : Int} : integer? s = some n ↔ Spells s n := by
  constructor
  · intro read
    unfold integer? at read
    split at read
    all_goals
      obtain ⟨m, digits, rfl⟩ := Option.map_eq_some_iff.mp read
      rw [natural?_eq_some_iff] at digits
    · exact .minus digits
    · exact .plus digits
    · exact .bare digits
  · intro spells
    cases spells with
    | bare digits =>
      rw [integer?_of_digits digits.all_isDigit, natural?_eq_some_iff.mpr digits, Option.map_some]
    | plus digits | minus digits =>
      rw [integer?, natural?_eq_some_iff.mpr digits, Option.map_some]

theorem Spells.unique {s : List Char} {n m : Int} (spells : Spells s n) (again : Spells s m) :
    n = m :=
  Option.some.inj ((integer?_eq_some_iff.mpr spells).symm.trans (integer?_eq_some_iff.mpr again))

theorem spells_render (n : Int) : Spells (render n) n :=
  integer?_eq_some_iff.mp (integer?_render n)

theorem unsigned?_eq_some_iff {s : List Char} {n : Nat} :
    unsigned? s = some n ↔ Spells s n ∧ s.head? ≠ some '-' := by
  constructor
  · intro read
    unfold unsigned? at read
    split at read
    · exact ⟨.plus (natural?_eq_some_iff.mp read), by simp⟩
    · have digits := natural?_eq_some_iff.mp read
      exact ⟨.bare digits, digits.head?_ne_minus⟩
  · rintro ⟨spells, positive⟩
    generalize value : (n : Int) = m at spells
    cases spells with
    | bare digits =>
      obtain rfl := Int.ofNat.inj value
      rw [unsigned?_of_digits digits.all_isDigit, natural?_eq_some_iff.mpr digits]
    | plus digits =>
      obtain rfl := Int.ofNat.inj value
      exact natural?_eq_some_iff.mpr digits
    | minus => exact absurd rfl positive

theorem Spells.nonpos_of_minus {s : List Char} {n : Int} (spells : Spells s n)
    (minus : s.head? = some '-') : n ≤ 0 := by
  cases spells with
  | bare digits => exact absurd minus digits.head?_ne_minus
  | plus => exact absurd minus (by simp)
  | minus => omega

end Decimal

/-! ### Scalars -/

namespace Scalar

open Decimal (Spells)

/-- The scalar that an integer of 64 bits is read as, with or without a sign. -/
def ofInteger (n : Int) : Scalar :=
  if n ≤ greatestInt then .int n else .bigUnsigned n.toNat

variable {s : List Char} {value : Scalar}

theorem integer?_eq_some_iff :
    integer? s = some value ↔
      ∃ n, Spells s n ∧ (leastInt ≤ n ∧ n ≤ greatestInt) ∧ value = .int n := by
  simp only [integer?, Option.map_eq_some_iff, Option.filter_eq_some_iff, decide_eq_true_eq,
    Decimal.integer?_eq_some_iff, and_assoc, eq_comm (b := value)]

theorem unsigned?_eq_some_iff :
    unsigned? s = some value ↔
      ∃ n : Nat, Spells s n ∧ s.head? ≠ some '-' ∧ n ≤ greatestUnsigned ∧
        value = .bigUnsigned n := by
  simp only [unsigned?, Option.map_eq_some_iff, Option.filter_eq_some_iff, decide_eq_true_eq,
    Decimal.unsigned?_eq_some_iff, and_assoc, eq_comm (b := value)]

theorem integer?_eq_none_of_spells {n : Int} (spells : Spells s n)
    (outside : ¬ (leastInt ≤ n ∧ n ≤ greatestInt)) : integer? s = none := by
  refine Option.eq_none_iff_forall_ne_some.mpr fun value read => ?_
  obtain ⟨m, again, range, -⟩ := integer?_eq_some_iff.mp read
  exact outside (spells.unique again ▸ range)

theorem bigInteger?_eq_some_iff :
    bigInteger? s = some value ↔
      ∃ n, Spells s n ∧ (leastInt ≤ n ∧ n ≤ greatestUnsigned) ∧ value = ofInteger n := by
  rw [bigInteger?, Option.or_eq_some_iff]
  constructor
  · rintro (read | ⟨unread, read⟩)
    · obtain ⟨n, spells, range, rfl⟩ := integer?_eq_some_iff.mp read
      refine ⟨n, spells, ⟨range.1, range.2.trans (by decide)⟩, ?_⟩
      rw [ofInteger, if_pos range.2]
    · -- A natural number that is no signed integer is above them all.
      obtain ⟨n, spells, -, range, rfl⟩ := unsigned?_eq_some_iff.mp read
      have least : leastInt ≤ n := (show leastInt ≤ 0 by decide).trans (Int.natCast_nonneg n)
      have above : ¬ (n : Int) ≤ greatestInt := fun small => by
        have read := integer?_eq_some_iff.mpr ⟨n, spells, ⟨least, small⟩, rfl⟩
        exact nomatch unread.symm.trans read
      exact ⟨n, spells, ⟨least, range⟩, by rw [ofInteger, if_neg above, Int.toNat_natCast]⟩
  · rintro ⟨n, spells, range, rfl⟩
    by_cases small : n ≤ greatestInt
    · rw [ofInteger, if_pos small]
      exact .inl (integer?_eq_some_iff.mpr ⟨n, spells, ⟨range.1, small⟩, rfl⟩)
    · rw [ofInteger, if_neg small]
      have positive : 0 < n := (show 0 < greatestInt by decide).trans (Int.not_le.mp small)
      have natural : (n.toNat : Int) = n := Int.toNat_of_nonneg positive.le
      refine .inr ⟨integer?_eq_none_of_spells spells fun signed => small signed.2,
        unsigned?_eq_some_iff.mpr ⟨n.toNat, natural.symm ▸ spells, fun minus => ?_,
          natural.symm ▸ range.2, rfl⟩⟩
      exact absurd (spells.nonpos_of_minus minus) (Int.not_le.mpr positive)

theorem leastInt_eq : leastInt = -2 ^ 63 := rfl

theorem greatestInt_eq : greatestInt = 2 ^ 63 - 1 := rfl

theorem greatestUnsigned_eq : greatestUnsigned = 2 ^ 64 - 1 := rfl

theorem bigInteger?_of_integer? (read : integer? s = some value) : bigInteger? s = some value := by
  rw [bigInteger?, read, Option.some_or]

end Scalar

/-! ### Coercion -/

namespace FilterValue

open Decimal (Spells)

variable {fieldType : FieldType} {text : String}

theorem coerce_integer_iff {value : Scalar} :
    coerce .integer text.toList = .ok value ↔
      ∃ n, (Spells text.toList n ∧ -2 ^ 63 ≤ n ∧ n ≤ 2 ^ 63 - 1) ∧ value = .int n := by
  simp only [← Scalar.leastInt_eq, ← Scalar.greatestInt_eq, and_assoc]
  exact coerce_eq_ok_iff.trans (Scalar.integer?_eq_some_iff.trans (by simp only [and_assoc]))

theorem coerce_bigInteger_iff {value : Scalar} :
    coerce .bigInteger text.toList = .ok value ↔
      ∃ n, (Spells text.toList n ∧ -2 ^ 63 ≤ n ∧ n ≤ 2 ^ 64 - 1) ∧
        value = if n ≤ 2 ^ 63 - 1 then .int n else .bigUnsigned n.toNat := by
  simp only [← Scalar.leastInt_eq, ← Scalar.greatestInt_eq, ← Scalar.greatestUnsigned_eq, and_assoc]
  exact coerce_eq_ok_iff.trans
    (Scalar.bigInteger?_eq_some_iff.trans (by simp only [and_assoc]; rfl))

theorem coerce_error_iff {Written : Int → Prop} {made : Int → Scalar}
    (accepts : ∀ value, coerce fieldType text.toList = .ok value ↔
      ∃ n, Written n ∧ value = made n) {error : ValueError} :
    coerce fieldType text.toList = .error error ↔
      (¬ ∃ n, Written n) ∧ error = .type fieldType text := by
  rw [coerce_eq_error_iff, String.ofList_toList, Option.eq_none_iff_forall_ne_some]
  simp only [ne_eq, ← coerce_eq_ok_iff, accepts]
  refine and_congr_left' ⟨fun refused => ?_, fun unwritten value => ?_⟩
  · rintro ⟨n, written⟩
    exact refused _ ⟨n, written, rfl⟩
  · rintro ⟨n, written, -⟩
    exact unwritten ⟨n, written⟩

theorem coerce_bigInteger_of_spells {other : String} {n : Int} (spells : Spells text.toList n)
    (again : Spells other.toList n) {value : Scalar}
    (read : coerce .bigInteger text.toList = .ok value) :
    coerce .bigInteger other.toList = .ok value := by
  obtain ⟨m, ⟨spelled, range⟩, made⟩ := coerce_bigInteger_iff.mp read
  obtain rfl := spells.unique spelled
  exact coerce_bigInteger_iff.mpr ⟨n, ⟨again, range⟩, made⟩

/-- Which texts are integers of each type and as which scalar, and how the others are refused. -/
theorem integers_coerced_exactly (text : String) :
    (∀ value, coerce .integer text.toList = .ok value ↔
      ∃ n, (Spells text.toList n ∧ -2 ^ 63 ≤ n ∧ n ≤ 2 ^ 63 - 1) ∧ value = .int n) ∧
    (∀ value, coerce .bigInteger text.toList = .ok value ↔
      ∃ n, (Spells text.toList n ∧ -2 ^ 63 ≤ n ∧ n ≤ 2 ^ 64 - 1) ∧
        value = if n ≤ 2 ^ 63 - 1 then .int n else .bigUnsigned n.toNat) ∧
    (∀ error, coerce .integer text.toList = .error error ↔
      (¬ ∃ n, Spells text.toList n ∧ -2 ^ 63 ≤ n ∧ n ≤ 2 ^ 63 - 1) ∧
        error = .type .integer text) ∧
    (∀ error, coerce .bigInteger text.toList = .error error ↔
      (¬ ∃ n, Spells text.toList n ∧ -2 ^ 63 ≤ n ∧ n ≤ 2 ^ 64 - 1) ∧
        error = .type .bigInteger text) ∧
    (∀ (other : String) n, Spells text.toList n → Spells other.toList n → ∀ value,
      coerce .bigInteger text.toList = .ok value ↔ coerce .bigInteger other.toList = .ok value) ∧
    ∀ value, coerce .integer text.toList = .ok value →
      coerce .bigInteger text.toList = .ok value := by
  refine ⟨fun value => coerce_integer_iff, fun value => coerce_bigInteger_iff,
    fun error => coerce_error_iff fun value => coerce_integer_iff,
    fun error => coerce_error_iff fun value => coerce_bigInteger_iff,
    fun other n spells again value => ?_, fun value read => ?_⟩
  · exact ⟨coerce_bigInteger_of_spells spells again, coerce_bigInteger_of_spells again spells⟩
  · exact coerce_eq_ok_iff.mpr (Scalar.bigInteger?_of_integer? (coerce_eq_ok_iff.mp read))

/-- One above the greatest signed integer is the same unsigned scalar in both spellings, and minus
zero is zero. -/
theorem integers_coerced_exactly_spellings :
    Spells "+0009223372036854775808".toList 9223372036854775808 ∧
      Spells "9223372036854775808".toList 9223372036854775808 ∧
      coerce .bigInteger "9223372036854775808".toList = .ok (.bigUnsigned 9223372036854775808) ∧
      coerce .integer "9223372036854775808".toList =
        .error (.type .integer "9223372036854775808") ∧
      coerce .integer "-00".toList = .ok (.int 0) ∧
      coerce .bigInteger "-00".toList = .ok (.int 0) := by
  have long : Spells "+0009223372036854775808".toList 9223372036854775808 :=
    Decimal.integer?_eq_some_iff.mp (by decide +kernel)
  have short : Spells "9223372036854775808".toList 9223372036854775808 :=
    Decimal.integer?_eq_some_iff.mp (by decide +kernel)
  have zero : Spells "-00".toList 0 := Decimal.integer?_eq_some_iff.mp (by decide +kernel)
  obtain ⟨integers, -, -, -, -, kept⟩ := integers_coerced_exactly "-00"
  have signed : coerce .integer "-00".toList = .ok (.int 0) :=
    (integers _).mpr ⟨0, ⟨zero, by decide, by decide⟩, rfl⟩
  obtain ⟨-, bigIntegers, -, -, alike, -⟩ := integers_coerced_exactly "+0009223372036854775808"
  have read : coerce .bigInteger "+0009223372036854775808".toList =
      .ok (.bigUnsigned 9223372036854775808) :=
    (bigIntegers _).mpr ⟨9223372036854775808, ⟨long, by decide, by decide⟩, by decide⟩
  obtain ⟨-, -, refused, -, -, -⟩ := integers_coerced_exactly "9223372036854775808"
  refine ⟨long, short, (alike _ _ long short _).mp read, (refused _).mpr ⟨?_, rfl⟩, signed,
    kept _ signed⟩
  rintro ⟨n, spells, -, small⟩
  obtain rfl := short.unique spells
  exact absurd small (by decide)

end FilterValue

end QueryFilter
