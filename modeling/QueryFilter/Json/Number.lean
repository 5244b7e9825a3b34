import QueryFilter.Json.Error

/-!
# Numbers in a JSON text

An integer of 64 bits is exact. Any other number is a double-precision one: its first digits, as
many as 64 bits hold, are rounded and then scaled by a power of ten, so that a long literal may end
one place away from the nearest number. A number too great for the format is refused.
-/

namespace QueryFilter.JsonNumber

def greatestSignificand : Nat := 18446744073709551615

/-- The distance from zero of the least integer of 64 bits with a sign. -/
def leastMagnitude : Nat := 9223372036854775808

def greatestExponent : Nat := 2147483647

def digitOf (c : Char) : Nat := c.toNat - '0'.toNat

def outOfRange {α : Type} : Except JsonError α := .error (.malformed .numberOutOfRange)

def powerOfTen (n : Nat) : Binary64 := .ofDecimal false 1 n

/-- `x` times the power of ten, or divided by it where the exponent is negative. A power beyond the
format is applied in steps; a number that is zero stays zero. -/
def scale (x : Binary64) (e : Int) : Except JsonError Binary64 :=
  if e.natAbs ≤ 308 then
    if 0 ≤ e then
      match x.mul (powerOfTen e.toNat) with
      | .infinite _ => outOfRange
      | product => .ok product
    else .ok (x.div (powerOfTen e.natAbs))
  else if x.isZero then .ok x
  else if 0 ≤ e then outOfRange
  else scale (x.div (powerOfTen 308)) (e + 308)
termination_by e.natAbs
decreasing_by omega

def ofParts (negative : Bool) (significand : Nat) (e : Int) (rest : List Char) :
    Except JsonError (JsonNumber × List Char) := do
  let x ← scale (.nearest false significand 1) e
  .ok (.float (x.withSign negative), rest)

/-- The digits of an exponent. One beyond 32 bits is decided at once. -/
def exponentDigits (negative : Bool) (significand : Nat) (start : Int) (below : Bool) :
    Nat → List Char → Except JsonError (JsonNumber × List Char)
  | e, c :: rest =>
    if c.isDigit then
      if greatestExponent < 10 * e + digitOf c then
        if significand ≠ 0 ∧ ¬ below then outOfRange
        else .ok (.float (.zero negative), rest.dropWhile Char.isDigit)
      else exponentDigits negative significand start below (10 * e + digitOf c) rest
    else ofParts negative significand (if below then start - e else start + e) (c :: rest)
  | e, [] => ofParts negative significand (if below then start - e else start + e) []

def exponent (negative : Bool) (significand : Nat) (start : Int) (s : List Char) :
    Except JsonError (JsonNumber × List Char) :=
  let (below, s) := match s with
    | '+' :: rest => (false, rest)
    | '-' :: rest => (true, rest)
    | rest => (false, rest)
  match s with
  | [] => .error (.malformed .endInValue)
  | c :: rest =>
    if c.isDigit then exponentDigits negative significand start below (digitOf c) rest
    else .error (.malformed .invalidNumber)

def afterDigits (negative : Bool) (significand : Nat) (e : Int) (s : List Char) :
    Except JsonError (JsonNumber × List Char) :=
  match s with
  | c :: rest =>
    if c = 'e' ∨ c = 'E' then exponent negative significand e rest
    else ofParts negative significand e s
  | [] => ofParts negative significand e []

/-- The digits behind a point, of which `count` have been read. Digits that the significand cannot
hold do not count. -/
def fractionDigits (negative : Bool) (e : Int) :
    (significand count : Nat) → List Char → Except JsonError (JsonNumber × List Char)
  | significand, count, c :: rest =>
    if c.isDigit then
      if greatestSignificand < 10 * significand + digitOf c then
        afterDigits negative significand (e - count) (rest.dropWhile Char.isDigit)
      else fractionDigits negative e (10 * significand + digitOf c) (count + 1) rest
    else if count = 0 then .error (.malformed .invalidNumber)
    else afterDigits negative significand (e - count) (c :: rest)
  | significand, count, [] =>
    if count = 0 then .error (.malformed .endInValue)
    else afterDigits negative significand (e - count) []

/-- The digits before the point that the significand cannot hold: they only count. -/
def longInteger (negative : Bool) (significand : Nat) :
    (skipped : Nat) → List Char → Except JsonError (JsonNumber × List Char)
  | skipped, c :: rest =>
    if c.isDigit then longInteger negative significand (skipped + 1) rest
    else if c = '.' then fractionDigits negative skipped significand 0 rest
    else afterDigits negative significand skipped (c :: rest)
  | skipped, [] => afterDigits negative significand skipped []

/-- A number without a point and an exponent. Zero with a minus is no integer. -/
def whole (negative : Bool) (significand : Nat) : JsonNumber :=
  if ¬ negative then .int significand
  else if significand = 0 ∨ leastMagnitude < significand then
    .float (.nearest true significand 1)
  else .int (-(significand : Int))

/-- What follows the digits before the point, all of which the significand holds. -/
def afterInteger (negative : Bool) (significand : Nat) (s : List Char) :
    Except JsonError (JsonNumber × List Char) :=
  match s with
  | c :: rest =>
    if c = '.' then fractionDigits negative 0 significand 0 rest
    else if c = 'e' ∨ c = 'E' then exponent negative significand 0 rest
    else .ok (whole negative significand, s)
  | [] => .ok (whole negative significand, [])

def integerDigits (negative : Bool) :
    (significand : Nat) → List Char → Except JsonError (JsonNumber × List Char)
  | significand, c :: rest =>
    if c.isDigit then
      if greatestSignificand < 10 * significand + digitOf c then
        longInteger negative significand 0 (c :: rest)
      else integerDigits negative (10 * significand + digitOf c) rest
    else afterInteger negative significand (c :: rest)
  | significand, [] => afterInteger negative significand []

/-- The number that `s` starts with, behind its minus if it has one. A zero in front stands
alone. -/
def read (negative : Bool) (s : List Char) : Except JsonError (JsonNumber × List Char) :=
  match s with
  | [] => .error (.malformed .endInValue)
  | c :: rest =>
    if c = '0' then
      if (rest.head?.map Char.isDigit).getD false then .error (.malformed .invalidNumber)
      else afterInteger negative 0 rest
    else if c.isDigit then integerDigits negative (digitOf c) rest
    else .error (.malformed .invalidNumber)

end QueryFilter.JsonNumber
