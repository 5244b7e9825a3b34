import QueryFilter.Text.Pieces

/-!
# UUIDs

A UUID is thirty-two hexadecimal digits. It is written in small letters in five groups; it is read
in that form, in braces or behind `urn:uuid:` too, or as the digits alone.
-/

namespace QueryFilter

structure Uuid where
  digits : List (Fin 16)
  length_digits : digits.length = 32
  deriving DecidableEq

namespace Uuid

def digitChar (d : Fin 16) : Char := Nat.digitChar d

def digit? (c : Char) : Option (Fin 16) :=
  if '0' ≤ c ∧ c ≤ '9' then some (Fin.ofNat 16 (c.toNat - '0'.toNat))
  else if 'a' ≤ c ∧ c ≤ 'f' then some (Fin.ofNat 16 (c.toNat - 'a'.toNat + 10))
  else if 'A' ≤ c ∧ c ≤ 'F' then some (Fin.ofNat 16 (c.toNat - 'A'.toNat + 10))
  else none

def ofDigits? (s : List Char) : Option Uuid :=
  match s.mapM digit? with
  | some digits => if h : digits.length = 32 then some ⟨digits, h⟩ else none
  | none => none

def groupSizes : List Nat := [8, 4, 4, 4, 12]

def ofGroups? (s : List Char) : Option Uuid :=
  let groups := Text.pieces '-' s
  if groups.map List.length = groupSizes then ofDigits? groups.flatten else none

def ofBraced? : List Char → Option Uuid
  | '\x7b' :: rest => if rest.getLast? = some '\x7d' then ofGroups? rest.dropLast else none
  | _ => none

def ofUrn? (s : List Char) : Option Uuid :=
  if (s.take 9).map Char.toLower = "urn:uuid:".toList then ofGroups? (s.drop 9) else none

def ofText? (s : List Char) : Option Uuid :=
  (ofDigits? s).or ((ofGroups? s).or ((ofBraced? s).or (ofUrn? s)))

def render (u : Uuid) : List Char :=
  let s := u.digits.map digitChar
  s.take 8 ++ '-' :: (s.drop 8).take 4 ++ '-' :: (s.drop 12).take 4 ++ '-' ::
    (s.drop 16).take 4 ++ '-' :: s.drop 20

theorem digit?_digitChar (d : Fin 16) : digit? (digitChar d) = some d := by
  revert d; decide

end Uuid

end QueryFilter
