import QueryFilter.Text.CaseTable
import QueryFilter.Text.UnprintedTable

/-!
# Quoted text

A text between double quotes that can be printed anywhere: a quote, a backslash and the common
controls have a backslash form, and what is not printed by itself is given by its code point.
-/

namespace QueryFilter.Text

def isUnprinted (c : Char) : Bool :=
  c.toNat < 32 || (127 ≤ c.toNat && inRanges unprintedRanges c.toNat)

def quoteChar (c : Char) : List Char :=
  if c = '"' then ['\\', '"']
  else if c = '\\' then ['\\', '\\']
  else if c = '\t' then ['\\', 't']
  else if c = '\n' then ['\\', 'n']
  else if c = '\r' then ['\\', 'r']
  else if c.toNat = 0 then ['\\', '0']
  else if isUnprinted c then
    ['\\', 'u', '\x7b'] ++ Nat.toDigits 16 c.toNat ++ ['\x7d']
  else [c]

def quoted (s : String) : String :=
  String.ofList ('"' :: s.toList.flatMap quoteChar ++ ['"'])

end QueryFilter.Text
