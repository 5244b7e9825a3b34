import QueryFilter.Binary64.Basic

/-!
# Shortest decimals

`shortest` finds the fewest decimal digits that still stand for the given number and no other of
the format, and among those the digits nearest to it. It looks at ever finer decimal grids and
takes the first one on which a neighbour of the number rounds back to it.
-/

namespace QueryFilter.Binary64

/-- Which of two equally near decimals is taken. -/
inductive Tie where
  | up
  | even
  deriving DecidableEq, Repr

structure Decimal where
  digits : Nat
  exponent : Int
  deriving DecidableEq, Repr

def onGrid (m : Nat) (e k : Int) : Nat × Nat :=
  (m * Nat.pow 2 e.toNat * Nat.pow 10 (-k).toNat, Nat.pow 2 (-e).toNat * Nat.pow 10 k.toNat)

/-- Whether the decimal `c * 10 ^ k` lies between the midpoints to the neighbours of `m * 2 ^ e`; a
midpoint itself rounds to an even significand. -/
def roundsTo (m : Nat) (e : Int) (c : Nat) (k : Int) : Bool :=
  let below := if m = fullSignificand ∧ leastExponent < e then 1 else 2
  let (lowNum, den) := onGrid (4 * m - below) (e - 2) k
  let (highNum, _) := onGrid (4 * m + 2) (e - 2) k
  if m % 2 = 0 then lowNum ≤ c * den && c * den ≤ highNum
  else lowNum < c * den && c * den < highNum

/-- The neighbour of `m * 2 ^ e` on the grid of `10 ^ k` that rounds to it, the nearer one where
both do. -/
def neighbour? (tie : Tie) (m : Nat) (e k : Int) : Option Nat :=
  let (num, den) := onGrid m e k
  let down := num / den
  let twice := 2 * (num % den)
  let takeUp := den < twice || (twice == den && (tie == .up || down % 2 == 1))
  match roundsTo m e down k, roundsTo m e (down + 1) k with
  | true, true => some (if takeUp then down + 1 else down)
  | true, false => some down
  | false, true => some (down + 1)
  | false, false => none

def firstGrid (tie : Tie) (m : Nat) (e : Int) : Nat → Int → Decimal
  | 0, k => ⟨(onGrid m e k).1 / (onGrid m e k).2, k⟩
  | steps + 1, k =>
    match neighbour? tie m e k with
    | some c => ⟨c, k⟩
    | none => firstGrid tie m e steps (k - 1)

/-- The decimal logarithm of `2 ^ n`, rounded down. -/
def decimalLog (n : Int) : Int := Int.fdiv (n * 30103) 100000

/-- The shortest decimal for `m * 2 ^ e`, with `m` not zero. The first grid is coarser than the
number itself, and on the nineteenth every number of the format has a neighbour. -/
def shortest (tie : Tie) (m : Nat) (e : Int) : Decimal :=
  firstGrid tie m e 19 (decimalLog (m.log2 + e) + 1)

end QueryFilter.Binary64
