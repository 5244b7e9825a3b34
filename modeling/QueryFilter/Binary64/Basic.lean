/-!
# Double-precision numbers

A `Binary64` is a number of the IEEE 754 format of that name, taken apart into sign, significand
and exponent. `nearest` rounds a quotient of natural numbers to the format, a half to the even
significand; every other operation is stated through it.
-/

namespace QueryFilter

/-- A finite number is `± significand * 2 ^ exponent`, with a significand below `2 ^ 53` that
reaches `2 ^ 52` unless the exponent is the least one, -1074. -/
inductive Binary64 where
  | finite (negative : Bool) (significand : Nat) (exponent : Int)
  | infinite (negative : Bool)
  | nan
  deriving DecidableEq, Repr, Inhabited

namespace Binary64

def leastExponent : Int := -1074

def greatestExponent : Int := 971

def fullSignificand : Nat := Nat.pow 2 52

def zero (negative : Bool) : Binary64 := .finite negative 0 leastExponent

/-- The quotient as a whole number: the nearest one, and of two the even one. -/
def roundHalfEven (num den : Nat) : Nat :=
  let quotient := num / den
  let twice := 2 * (num % den)
  if twice < den then quotient
  else if den < twice then quotient + 1
  else quotient + quotient % 2

def scaled (num den : Nat) (e : Int) : Nat × Nat :=
  if 0 ≤ e then (num, den * Nat.pow 2 e.toNat) else (num * Nat.pow 2 (-e).toNat, den)

/-- The exponent that leaves `num / den` a significand of 53 bits, as far as the format has it. -/
def exponentFor (num den : Nat) : Int :=
  let e : Int := (num.log2 : Int) - (den.log2 : Int) - 52
  let (a, b) := scaled num den e
  max leastExponent (if a < fullSignificand * b then e - 1 else e)

/-- The number of the format nearest to `± num / den`; beyond the greatest one it is infinite. -/
def nearest (negative : Bool) (num den : Nat) : Binary64 :=
  if num = 0 then zero negative
  else
    let e := exponentFor num den
    let (a, b) := scaled num den e
    let m := roundHalfEven a b
    let (m, e) := if m = 2 * fullSignificand then (fullSignificand, e + 1) else (m, e)
    if greatestExponent < e then .infinite negative else .finite negative m e

/-- The number of the format nearest to `± m * 10 ^ e`. What lies far outside its range is decided
without the power of ten, which is at least the third power of two. -/
def ofDecimal (negative : Bool) (m : Nat) (e : Int) : Binary64 :=
  if m = 0 then zero negative
  else if 0 ≤ e then
    if 1024 < (m.log2 : Int) + 3 * e then .infinite negative
    else nearest negative (m * Nat.pow 10 e.toNat) 1
  else
    if (m.log2 : Int) + 3 * e < -1080 then zero negative
    else nearest negative m (Nat.pow 10 (-e).toNat)

def isZero : Binary64 → Bool
  | .finite _ m _ => m == 0
  | _ => false

def withSign (negative : Bool) : Binary64 → Binary64
  | .finite _ m e => .finite negative m e
  | .infinite _ => .infinite negative
  | .nan => .nan

/-- The product, rounded; of a number that is not finite it is a NaN. -/
def mul : Binary64 → Binary64 → Binary64
  | .finite n m e, .finite n' m' e' =>
    nearest (n != n') (m * m' * Nat.pow 2 (e + e').toNat) (Nat.pow 2 (-(e + e')).toNat)
  | _, _ => .nan

/-- The quotient of finite numbers, rounded; without one it is a NaN. -/
def div : Binary64 → Binary64 → Binary64
  | .finite n m e, .finite n' m' e' =>
    if m' = 0 then .nan
    else nearest (n != n') (m * Nat.pow 2 (e - e').toNat) (m' * Nat.pow 2 (e' - e).toNat)
  | _, _ => .nan

def signBit (negative : Bool) : Nat := if negative then Nat.pow 2 63 else 0

/-- The bits of the number; a NaN has several patterns and none is singled out. -/
def bits? : Binary64 → Option Nat
  | .nan => none
  | .infinite negative => some (signBit negative + 2047 * fullSignificand)
  | .finite negative m e =>
    if m < fullSignificand then some (signBit negative + m)
    else some (signBit negative + (e + 1075).toNat * fullSignificand + (m - fullSignificand))

end Binary64

end QueryFilter
