import QueryFilter.Json.Writer
import QueryFilter.Proofs.JsonReading

/-!
# Written text reads back

A reader that meets what the writer wrote takes exactly that and leaves the rest: a string
(`readString_written`), and the members of an object one after another (`collected_written`). What
it takes from an object it has taken from every member (`written_of_collected`).
-/

namespace QueryFilter

open Json (escaped writeString write writeMembers)

namespace JsonReader

variable {rest : List Char}

/-! ### Strings -/

theorem readUnit_control {n : Nat} (control : n < 0x20) :
    readUnit ('0' :: '0' :: Nat.digitChar (n / 16) :: Nat.digitChar (n % 16) :: rest) =
      .ok (n, rest) := by
  have long : ∀ n < 0x20, ¬ (String.ofList
      ['0', '0', Nat.digitChar (n / 16), Nat.digitChar (n % 16)]).utf8ByteSize < 4 := by decide
  have value : ∀ n < 0x20,
      hexValue? ['0', '0', Nat.digitChar (n / 16), Nat.digitChar (n % 16)] = some n := by decide
  simp only [readUnit, List.take_succ_cons, List.take_zero, List.drop_succ_cons, List.drop_zero,
    long n control, value n control, ↓reduceIte]

theorem readChar_control {c : Char} (control : c.toNat < 0x20) :
    readChar ('\\' :: 'u' :: '0' :: '0' :: Nat.digitChar (c.toNat / 16) ::
      Nat.digitChar (c.toNat % 16) :: rest) = .ok (some c, rest) := by
  have low : ¬ (0xDC00 ≤ c.toNat ∧ c.toNat ≤ 0xDFFF) := by omega
  have high : c.toNat < 0xD800 ∨ 0xDBFF < c.toNat := by omega
  simp only [readChar, readUnits, readUnit_control control, bind, Except.bind, low, high,
    ↓reduceIte, Except.map, Char.ofNat_toNat]

theorem readChar_plain {c : Char} (quote : c ≠ '"') (backslash : c ≠ '\\')
    (printed : ¬ c.toNat < 0x20) : readChar (c :: rest) = .ok (some c, rest) := by
  unfold readChar
  split
  case h_6 same =>
    obtain ⟨rfl, rfl⟩ := List.cons.inj same
    exact if_neg printed
  all_goals simp_all

theorem readChar_escaped (c : Char) : readChar (escaped c ++ rest) = .ok (some c, rest) := by
  unfold escaped
  split
  · subst c; rfl
  split
  · subst c; rfl
  split
  · subst c; rfl
  split
  · subst c; rfl
  split
  · subst c; rfl
  split
  · subst c; rfl
  split
  · subst c; rfl
  split
  · rename_i control
    exact readChar_control control
  · rename_i quote backslash _ _ _ _ _ printed
    exact readChar_plain quote backslash printed

theorem length_le_escaped (cs : List Char) : cs.length ≤ (cs.flatMap escaped).length := by
  induction cs with
  | nil => exact Nat.le_refl _
  | cons c cs ih =>
    have one : 1 ≤ (escaped c).length := by
      unfold escaped
      repeat' split
      all_goals simp
    rw [List.flatMap_cons, List.length_append, List.length_cons]
    omega

theorem readChars_written {cs : List Char} {rounds : Nat} (enough : cs.length < rounds) :
    readChars rounds (cs.flatMap escaped ++ '"' :: rest) = .ok (cs, rest) := by
  induction cs generalizing rounds with
  | nil =>
    obtain ⟨rounds, rfl⟩ := Nat.exists_eq_add_one.mpr enough
    rfl
  | cons c cs ih =>
    obtain ⟨rounds, rfl⟩ := Nat.exists_eq_add_one.mpr (Nat.zero_lt_of_lt enough)
    have tail : readChars rounds (cs.flatMap escaped ++ '"' :: rest) = .ok (cs, rest) :=
      ih (Nat.lt_of_succ_lt_succ enough)
    rw [List.flatMap_cons, List.append_assoc, readChars, readChar_escaped]
    simp only [tail, Except.map]

theorem readString_written (s : String) (rest : List Char) :
    readString (s.toList.flatMap escaped ++ '"' :: rest) = .ok (s, rest) := by
  have enough : s.toList.length < (s.toList.flatMap escaped ++ '"' :: rest).length := by
    have := length_le_escaped s.toList
    rw [List.length_append, List.length_cons]
    omega
  rw [readString, readChars_written enough]
  simp [Except.map]

end JsonReader

/-! ### Objects -/

/-- Members as they stand behind the opening brace or behind another member, up to their end. -/
def Json.membersText (first : Bool) : List (String × Json) → List Char → List Char
  | [], rest => '\x7d' :: rest
  | (key, value) :: members, rest =>
    (if first then [] else [',']) ++ writeString key ++
      ':' :: (write value ++ membersText false members rest)

open Json (membersText)

theorem Json.writeMembers_append : (members : List (String × Json)) → (rest : List Char) →
    writeMembers members ++ '\x7d' :: rest = membersText true members rest
  | [], _ => rfl
  | [(key, value)], rest => by simp [writeMembers, membersText]
  | (key, value) :: next :: others, rest => by
    have comma : membersText false (next :: others) rest =
        ',' :: membersText true (next :: others) rest := rfl
    rw [membersText, comma, ← writeMembers_append]
    simp [writeMembers]

theorem Json.write_object_append (members : List (String × Json)) (rest : List Char) :
    write (.object members) ++ rest = '\x7b' :: membersText true members rest := by
  rw [write, ← writeMembers_append]
  simp

theorem Json.length_lt_membersText (first : Bool) (members : List (String × Json))
    (rest : List Char) : members.length < (membersText first members rest).length := by
  induction members generalizing first with
  | nil => exact Nat.zero_lt_succ _
  | cons member members ih =>
    have := ih false
    rw [membersText]
    simp only [List.length_append, List.length_cons]
    omega

namespace JsonReader

variable {rest u : List Char} {first : Bool} {item : JsonReader Json} {rounds : Nat}
  {collected after written : List (String × Json)}

theorem nextKey_membersText (first : Bool) (key : String) (value : Json)
    (written : List (String × Json)) (rest : List Char) :
    nextKey first (skipBlanks (membersText first ((key, value) :: written) rest)) =
      .ok (key, ':' :: (write value ++ membersText false written rest)) := by
  have whole : writeString key ++ ':' :: (write value ++ membersText false written rest) =
      '"' :: (key.toList.flatMap escaped ++
        '"' :: ':' :: (write value ++ membersText false written rest)) := by
    simp [writeString]
  cases first with
  | true =>
    rw [membersText, if_pos rfl, List.nil_append, whole, ← readString_written key]
    rfl
  | false =>
    rw [membersText, if_neg nofun, List.cons_append, List.nil_append, List.cons_append, whole,
      ← readString_written key]
    rfl

theorem collected_written
    (reads : ∀ member ∈ written, ∀ rest, item (write member.2 ++ rest) = .ok (member.2, rest))
    (enough : written.length < rounds) :
    members (collect item) rounds first collected (membersText first written rest) =
      .ok (written.reverse ++ collected, rest) := by
  induction written generalizing rounds first collected with
  | nil =>
    obtain ⟨rounds, rfl⟩ := Nat.exists_eq_add_one.mpr enough
    exact members_eq_ok_iff.mpr (.inl ⟨rfl, rfl⟩)
  | cons member written ih =>
    obtain ⟨key, value⟩ := member
    obtain ⟨rounds, rfl⟩ := Nat.exists_eq_add_one.mpr (Nat.zero_lt_of_lt enough)
    have taken : collect item collected key
        (':' :: (write value ++ membersText false written rest)) =
          .ok ((key, value) :: collected, membersText false written rest) :=
      collect_eq_ok_iff.mpr ⟨_, value, rfl, reads _ List.mem_cons_self _, rfl⟩
    have others : members (collect item) rounds false ((key, value) :: collected)
        (membersText false written rest) =
          .ok (written.reverse ++ (key, value) :: collected, rest) :=
      ih (fun member inside => reads member (List.mem_cons_of_mem _ inside))
        (Nat.lt_of_succ_lt_succ enough)
    rw [List.reverse_cons, List.append_assoc, List.singleton_append]
    exact members_eq_ok_iff.mpr
      (.inr ⟨_, _, nextKey_membersText first key value written rest, _, _, taken, others⟩)

/-- Whatever the values become, an object ends where it was written to end, and each value has
been read where it stands. -/
theorem written_of_collected (taken : Json → Prop)
    (reads : ∀ member ∈ written, ∀ rest value u,
      item (write member.2 ++ rest) = .ok (value, u) → u = rest ∧ taken member.2)
    (read : members (collect item) rounds first collected (membersText first written rest) =
      .ok (after, u)) :
    u = rest ∧ ∀ member ∈ written, taken member.2 := by
  induction written generalizing rounds first collected with
  | nil =>
    cases rounds with
    | zero => exact absurd read refuse_ne_ok
    | succ rounds =>
      obtain ⟨closed, -⟩ | ⟨_, _, next, -⟩ := members_eq_ok_iff.mp read
      · exact ⟨(List.cons.inj closed).2.symm, nofun⟩
      · exact absurd next nextKey_brace
  | cons member written ih =>
    obtain ⟨key, value⟩ := member
    cases rounds with
    | zero => exact absurd read refuse_ne_ok
    | succ rounds =>
      obtain ⟨closed, -⟩ | ⟨_, _, next, _, _, found, read⟩ := members_eq_ok_iff.mp read
      · have next := nextKey_membersText first key value written rest
        rw [closed] at next
        exact absurd next nextKey_brace
      · rw [nextKey_membersText] at next
        obtain ⟨rfl, rfl⟩ := Prod.mk.inj (Except.ok.inj next)
        obtain ⟨_, _, colon, found, rfl⟩ := collect_eq_ok_iff.mp found
        obtain rfl := Except.ok.inj colon
        obtain ⟨rfl, here⟩ := reads _ List.mem_cons_self _ _ _ found
        obtain ⟨rfl, others⟩ :=
          ih (fun member inside => reads member (List.mem_cons_of_mem _ inside)) read
        exact ⟨rfl, List.forall_mem_cons.mpr ⟨here, others⟩⟩

end JsonReader

end QueryFilter
