import QueryFilter.Text.CaseTable

/-!
# Lowercase

`lowercase` is the full mapping of Unicode without a language: one character may become two, and a
capital sigma becomes a final sigma where it ends a word.
-/

namespace QueryFilter.Text

def isCased (c : Char) : Bool := inRanges casedRanges c.toNat

def isCaseIgnorable (c : Char) : Bool := inRanges caseIgnorableRanges c.toNat

/-- The lowercase of the code point `n` beyond ASCII, where it has a simple one. -/
def simpleLower? (n : Nat) : Option Nat :=
  (lowercaseRuns.find? fun (first, last, step, _) =>
    first ≤ n && n ≤ last && (n - first) % step == 0).map fun (first, _, _, lower) =>
      lower + (n - first)

/-- The lowercase of an ASCII letter; any other character is kept. -/
def asciiLower (c : Char) : Char :=
  if 'A' ≤ c ∧ c ≤ 'Z' then Char.ofNat (c.toNat + 32) else c

def lowerChar (c : Char) : List Char :=
  if c.toNat < 128 then [asciiLower c]
  else if c.toNat = 0x130 then ['i', Char.ofNat 0x307]
  else match simpleLower? c.toNat with
    | some n => [Char.ofNat n]
    | none => [c]

/-- Whether the first character that is not case-ignorable is cased. -/
def startsCased (s : List Char) : Bool :=
  match s.dropWhile isCaseIgnorable with
  | [] => false
  | c :: _ => isCased c

/-- The lowercase of a text that follows `before`, which is given from its last character on. -/
def lowercaseAfter (before : List Char) : List Char → List Char
  | [] => []
  | c :: rest =>
    (if c.toNat = 0x3A3 then
      [Char.ofNat (if startsCased before && !startsCased rest then 0x3C2 else 0x3C3)]
    else lowerChar c) ++ lowercaseAfter (c :: before) rest

def lowercase (s : List Char) : List Char := lowercaseAfter [] s

def lowercased (s : String) : String := String.ofList (lowercase s.toList)

@[simp] theorem toList_lowercased (s : String) :
    (lowercased s).toList = lowercase s.toList := by
  simp [lowercased]

theorem lowerChar_of_ascii {c : Char} (h : c.toNat < 128) : lowerChar c = [asciiLower c] := by
  simp [lowerChar, h]

theorem lowercaseAfter_cons_of_ascii {c : Char} (h : c.toNat < 128) (before s : List Char) :
    lowercaseAfter before (c :: s) = asciiLower c :: lowercaseAfter (c :: before) s := by
  rw [lowercaseAfter, if_neg (by omega), lowerChar_of_ascii h]
  rfl

theorem lowercaseAfter_of_ascii {before s : List Char} (h : ∀ c ∈ s, c.toNat < 128) :
    lowercaseAfter before s = s.map asciiLower := by
  induction s generalizing before with
  | nil => rfl
  | cons c rest ih =>
    rw [lowercaseAfter_cons_of_ascii (h c List.mem_cons_self),
      ih fun d hd => h d (List.mem_cons_of_mem _ hd)]
    rfl

theorem lowercase_of_ascii {s : List Char} (h : ∀ c ∈ s, c.toNat < 128) :
    lowercase s = s.map asciiLower :=
  lowercaseAfter_of_ascii h

/-- What an ASCII character becomes depends on no other, but what stands before it may on it. -/
theorem exists_lowercaseAfter_append {c : Char} (h : c.toNat < 128) (before s t : List Char) :
    ∃ front, lowercaseAfter before (s ++ c :: t) =
      front ++ asciiLower c :: lowercaseAfter (c :: (s.reverse ++ before)) t := by
  induction s generalizing before with
  | nil => exact ⟨[], lowercaseAfter_cons_of_ascii h before t⟩
  | cons d rest ih =>
    obtain ⟨front, split⟩ := ih (d :: before)
    rw [show rest.reverse ++ d :: before = (d :: rest).reverse ++ before by simp] at split
    rw [List.cons_append, lowercaseAfter, split, ← List.append_assoc]
    exact ⟨_, rfl⟩

theorem mem_lowercase_of_ascii {c : Char} (h : c.toNat < 128) {s : List Char} (hc : c ∈ s) :
    asciiLower c ∈ lowercase s := by
  obtain ⟨before, after, rfl⟩ := List.append_of_mem hc
  obtain ⟨front, split⟩ := exists_lowercaseAfter_append h [] before after
  simp [lowercase, split]

theorem getLast?_lowercase_of_ascii {c : Char} (h : c.toNat < 128) (s : List Char) :
    (lowercase (s ++ [c])).getLast? = some (asciiLower c) := by
  obtain ⟨front, split⟩ := exists_lowercaseAfter_append h [] s []
  simp [lowercase, split, lowercaseAfter]

theorem head?_lowercase_of_ascii {c : Char} (h : c.toNat < 128) (s : List Char) :
    (lowercase (c :: s)).head? = some (asciiLower c) := by
  rw [lowercase, lowercaseAfter_cons_of_ascii h, List.head?_cons]

end QueryFilter.Text
