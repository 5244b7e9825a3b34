/-!
# Decimal integers

`natural?` reads a nonempty run of ASCII digits, `integer?` one with an optional sign in front and
`unsigned?` one with an optional plus; leading zeros are allowed. `integer?_render` says that what
`render` writes reads back.
-/

namespace QueryFilter.Decimal

def natural? (s : List Char) : Option Nat :=
  if s ≠ [] ∧ s.all Char.isDigit then some (Nat.ofDigitChars 10 s 0) else none

def integer? : List Char → Option Int
  | '-' :: digits => (natural? digits).map fun n : Nat => -(n : Int)
  | '+' :: digits => (natural? digits).map fun n : Nat => (n : Int)
  | digits => (natural? digits).map fun n : Nat => (n : Int)

/-- A number that no minus stands in front of, not even in front of zero. -/
def unsigned? : List Char → Option Nat
  | '+' :: digits => natural? digits
  | digits => natural? digits

def render (n : Int) : List Char :=
  if n < 0 then '-' :: Nat.toDigits 10 n.natAbs else Nat.toDigits 10 n.natAbs

def padded (width n : Nat) : List Char :=
  let digits := Nat.toDigits 10 n
  List.replicate (width - digits.length) '0' ++ digits

/-- The first `width` characters as digits, where they are digits, and the rest. -/
def digitsExactly? (width : Nat) (s : List Char) : Option (Nat × List Char) :=
  let digits := s.take width
  if digits.length = width ∧ digits.all Char.isDigit then
    some (Nat.ofDigitChars 10 digits 0, s.drop width)
  else none

theorem natural?_toDigits (n : Nat) : natural? (Nat.toDigits 10 n) = some n := by
  have hall : (Nat.toDigits 10 n).all Char.isDigit = true :=
    List.all_eq_true.2 fun c hc => Nat.isDigit_of_mem_toDigits (by decide) (by decide) hc
  rw [natural?, if_pos ⟨Nat.toDigits_ne_nil, hall⟩,
    Nat.ofDigitChars_toDigits (by decide) (by decide)]

theorem integer?_of_digits {s : List Char} (h : s.all Char.isDigit = true) :
    integer? s = (natural? s).map fun n : Nat => (n : Int) := by
  unfold integer?
  split
  · simp [Char.isDigit] at h
  · simp [Char.isDigit] at h
  · rfl

theorem integer?_render (n : Int) : integer? (render n) = some n := by
  unfold render
  split
  · rw [show integer? ('-' :: Nat.toDigits 10 n.natAbs) =
      (natural? (Nat.toDigits 10 n.natAbs)).map fun m : Nat => -(m : Int) from rfl, natural?_toDigits]
    exact congrArg some (by dsimp only; omega)
  · have hall : (Nat.toDigits 10 n.natAbs).all Char.isDigit = true :=
      List.all_eq_true.2 fun c hc => Nat.isDigit_of_mem_toDigits (by decide) (by decide) hc
    rw [integer?_of_digits hall, natural?_toDigits]
    exact congrArg some (by dsimp only; omega)

end QueryFilter.Decimal
