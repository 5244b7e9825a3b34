import QueryFilter.Binary64.Shortest

/-!
# Writing numbers

Two ways to write a double-precision number with the fewest digits that read back: `positional`
never uses an exponent, `scientific` marks every number as a fraction and turns to an exponent
outside the range from `10 ^ -5` to `10 ^ 16`.
-/

namespace QueryFilter.Binary64

def significantDigits (d : Decimal) : List Char × Int :=
  let digits := Nat.toDigits 10 d.digits
  let kept := (digits.reverse.dropWhile (· == '0')).reverse
  (kept, d.exponent + (digits.length - kept.length : Nat))

/-- The digits times `10 ^ e` in positional notation, with `whole` behind a whole number. -/
def placed (digits : List Char) (e : Int) (whole : List Char) : List Char :=
  let point := digits.length + e
  if 0 ≤ e then digits ++ List.replicate e.toNat '0' ++ whole
  else if 0 < point then digits.take point.toNat ++ '.' :: digits.drop point.toNat
  else '0' :: '.' :: List.replicate (-point).toNat '0' ++ digits

def signed (negative : Bool) (s : List Char) : List Char := if negative then '-' :: s else s

/-- Positional notation, without a point for a whole number. -/
def positional : Binary64 → List Char
  | .nan => "NaN".toList
  | .infinite negative => signed negative "inf".toList
  | .finite negative m e =>
    if m = 0 then signed negative ['0']
    else
      let (digits, k) := significantDigits (shortest .up m e)
      signed negative (placed digits k [])

def withExponent (digits : List Char) (e : Int) : List Char :=
  let mantissa := match digits with
    | [] => []
    | [d] => [d]
    | d :: rest => d :: '.' :: rest
  mantissa ++ 'e' :: (if e < 0 then '-' else '+') :: Nat.toDigits 10 e.natAbs

/-- Positional notation with at least one digit behind the point, or scientific notation outside
the range of the former. The format has it only for finite numbers. -/
def scientific : Binary64 → List Char
  | .nan => "null".toList
  | .infinite _ => "null".toList
  | .finite negative m e =>
    if m = 0 then signed negative "0.0".toList
    else
      let (digits, k) := significantDigits (shortest .even m e)
      let point := digits.length + k
      signed negative <|
        if -5 < point ∧ point ≤ 16 then placed digits k ".0".toList
        else withExponent digits (point - 1)

end QueryFilter.Binary64
