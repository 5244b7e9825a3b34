import QueryFilter.Binary64.Basic

/-!
# Floating-point literals

An optional sign, then digits with at most one point and at least one digit around it, then an
optional exponent; or one of the words for infinity and NaN, in any case. A literal stands for the
number nearest to its exact value.
-/

namespace QueryFilter.Binary64

/-- The value of exponent digits. It stops growing where no digit could bring it back into range. -/
def exponentValue (digits : List Char) : Nat :=
  digits.foldl (fun e c => if e < 65536 then 10 * e + (c.toNat - 48) else e) 0

def exponentPart? : List Char → Option Int
  | [] => some 0
  | mark :: rest =>
    if mark = 'e' ∨ mark = 'E' then
      let (negative, digits) := match rest with
        | '-' :: digits => (true, digits)
        | '+' :: digits => (false, digits)
        | digits => (false, digits)
      if digits ≠ [] ∧ digits.all Char.isDigit then
        some (if negative then -(exponentValue digits : Int) else exponentValue digits)
      else none
    else none

def unsignedLiteral? (negative : Bool) (s : List Char) : Option Binary64 :=
  let whole := s.takeWhile Char.isDigit
  let rest := s.dropWhile Char.isDigit
  let (fraction, rest) := match rest with
    | '.' :: tail => (tail.takeWhile Char.isDigit, tail.dropWhile Char.isDigit)
    | _ => ([], rest)
  if whole = [] ∧ fraction = [] then none
  else (exponentPart? rest).map fun e =>
    ofDecimal negative (Nat.ofDigitChars 10 (whole ++ fraction) 0) (e - fraction.length)

def word? (negative : Bool) (s : List Char) : Option Binary64 :=
  let s := s.map Char.toLower
  if s = "inf".toList ∨ s = "infinity".toList then some (.infinite negative)
  else if s = "nan".toList then some .nan
  else none

def literal? (s : List Char) : Option Binary64 :=
  let (negative, s) := match s with
    | '-' :: rest => (true, rest)
    | '+' :: rest => (false, rest)
    | rest => (false, rest)
  (unsignedLiteral? negative s).or (word? negative s)

end QueryFilter.Binary64
