import QueryFilter.Proofs.JsonReading
import QueryFilter.Proofs.Settling

/-!
# The strict reader and the lenient one

The strict reader judges each member as soon as it has read it, the lenient one reads the whole
document first. One simulation of `members` by `members` shows that the strict reader takes exactly
the objects that `strictEntries?` allows (`ofStrictText_eq_ok_iff`), and the lenient reader makes
the same map of each of them (`lenient_reads_as_strict`).
-/

namespace QueryFilter

open JsonReader

namespace JsonReader

variable {α : Type} {s rest : List Char}

theorem mismatch_ne_ok {expected : JsonExpected} {a : α} : mismatch expected s ≠ .ok a := by
  unfold mismatch
  split
  · nofun
  · nofun
  · intro read
    obtain ⟨_, -, read⟩ := Except.bind_eq_ok_iff.mp read
    exact nomatch read

theorem startOfValue_eq_ok_iff {t : List Char} :
    startOfValue s = .ok t ↔ skipBlanks s = t ∧ t ≠ [] := by
  unfold startOfValue
  split
  · rename_i blank
    rw [blank]
    exact ⟨fun read => absurd read refuse_ne_ok, fun taken => absurd taken.1.symm taken.2⟩
  · rename_i left
    rw [Except.ok.injEq]
    exact ⟨fun same => ⟨same, fun blank => left (same.trans blank)⟩, And.left⟩

theorem start_of_object {inner? : Option (JsonReader Json)} {members : List (String × Json)}
    (read : readWith inner? s = .ok (.object members, rest)) :
    ∃ t, skipBlanks s = '\x7b' :: t := by
  unfold readWith at read
  split at read
  -- Behind an opening brace; every other start makes another kind of value or none.
  case h_7 t start => exact ⟨t, start⟩
  case h_6 =>
    split at read
    · exact absurd read refuse_ne_ok
    · obtain ⟨_, -, read⟩ := Except.map_eq_ok_iff.mp read
      exact nomatch read
  case h_8 =>
    split at read
    · obtain ⟨_, -, read⟩ := Except.map_eq_ok_iff.mp read
      exact nomatch read
    · exact absurd read refuse_ne_ok
  case h_1 => exact absurd read refuse_ne_ok
  all_goals
    obtain ⟨_, -, read⟩ := Except.map_eq_ok_iff.mp read
    exact nomatch read

end JsonReader

namespace FilterMap

variable {s rest : List Char}

theorem strictMember_eq_ok_iff {filters after : FilterMap} {key : String} :
    strictMember filters key s = .ok (after, rest) ↔
      ∃ t value entry, readColon s = .ok t ∧
        readValue (Json.greatestDepth - 1) t = .ok (value, rest) ∧
        strictEntry? value = some entry ∧ filters.insert key entry = after := by
  simp only [strictMember, Except.bind_eq_ok_iff, Prod.exists]
  constructor
  · rintro ⟨t, colon, value, u, read, taken⟩
    split at taken
    · rename_i entry strict
      obtain ⟨rfl, rfl⟩ := Prod.mk.inj (Except.ok.inj taken)
      exact ⟨t, value, entry, colon, read, strict, rfl⟩
    · exact nomatch taken
  · rintro ⟨t, value, entry, colon, read, strict, rfl⟩
    exact ⟨t, colon, value, rest, read, by rw [strict]⟩

theorem exists_cons_of_suffix {α : Type} {x : α} {xs collected : List α}
    (suffix : x :: collected <:+ xs.reverse ++ collected) : ∃ later, xs = x :: later := by
  obtain ⟨front, same⟩ := suffix
  rw [← List.singleton_append, ← List.append_assoc] at same
  have reversed := congrArg List.reverse (List.append_cancel_right same)
  rw [List.reverse_reverse, List.reverse_concat] at reversed
  exact ⟨front.reverse, reversed.symm⟩

/-- The strict reader takes the members that are collected as well and all of which it allows. -/
theorem members_strictMember_eq_ok_iff {rounds : Nat} {first : Bool} {filters after : FilterMap}
    (collected : List (String × Json)) :
    JsonReader.members strictMember rounds first filters s = .ok (after, rest) ↔
      ∃ taken entries,
        JsonReader.members (collect (readValue (Json.greatestDepth - 1))) rounds first collected s =
          .ok (taken.reverse ++ collected, rest) ∧
        strictEntries? taken = some entries ∧ filters.insertAll entries = after := by
  -- Round by round: where the strict reader inserts an entry, the other collects its document.
  induction rounds generalizing first filters collected s with
  | zero =>
    constructor
    · intro read
      exact absurd read refuse_ne_ok
    · rintro ⟨_, _, read, -⟩
      exact absurd read refuse_ne_ok
  | succ rounds ih =>
    constructor
    · intro read
      obtain ⟨closed, rfl⟩ | ⟨key, t, next, middle, u, found, read⟩ := members_eq_ok_iff.mp read
      · exact ⟨[], [], members_eq_ok_iff.mpr (.inl ⟨closed, rfl⟩), rfl, rfl⟩
      · obtain ⟨v, value, entry, colon, taken, strict, rfl⟩ := strictMember_eq_ok_iff.mp found
        obtain ⟨others, entries, collects, strictOthers, rfl⟩ :=
          (ih ((key, value) :: collected)).mp read
        refine ⟨(key, value) :: others, (key, entry) :: entries, ?_, ?_, rfl⟩
        · rw [List.reverse_cons, List.append_assoc]
          exact members_eq_ok_iff.mpr (.inr ⟨key, t, next, _, u,
            collect_eq_ok_iff.mpr ⟨v, value, colon, taken, rfl⟩, collects⟩)
        · rw [strictEntries?, strict, strictOthers]
    · rintro ⟨taken, entries, read, strict, rfl⟩
      obtain ⟨closed, same⟩ | ⟨key, t, next, middle, u, found, read⟩ := members_eq_ok_iff.mp read
      · obtain rfl : taken = [] := by simpa using same
        obtain rfl := Option.some.inj strict
        exact members_eq_ok_iff.mpr (.inl ⟨closed, rfl⟩)
      · obtain ⟨v, value, colon, here, rfl⟩ := collect_eq_ok_iff.mp found
        obtain ⟨later, rfl⟩ := exists_cons_of_suffix (suffix_of_collected read)
        rw [strictEntries?] at strict
        split at strict
        · rename_i entry entries' strictHere strictOthers
          obtain rfl := Option.some.inj strict
          refine members_eq_ok_iff.mpr (.inr ⟨key, t, next, _, u,
            strictMember_eq_ok_iff.mpr ⟨v, value, entry, colon, here, strictHere, rfl⟩,
            (ih ((key, value) :: collected)).mpr ⟨_, _, ?_, strictOthers, rfl⟩⟩)
          rwa [List.reverse_cons, List.append_assoc] at read
        · cases strict

theorem strictReader_eq_ok_iff {filters : FilterMap} :
    strictReader s = .ok (filters, rest) ↔
      ∃ members entries, readValue Json.greatestDepth s = .ok (.object members, rest) ∧
        strictEntries? members = some entries ∧ empty.insertAll entries = filters := by
  by_cases object : ∃ t, skipBlanks s = '\x7b' :: t
  · obtain ⟨t, start⟩ := object
    have strict : strictReader s = JsonReader.members strictMember t.length true empty t := by
      simp only [strictReader, startOfValue, start, bind, Except.bind]
    have collects : ∀ taken : List (String × Json),
        JsonReader.members (collect (readValue (Json.greatestDepth - 1))) t.length true [] t =
          .ok (taken.reverse ++ [], rest) ↔
        readValue Json.greatestDepth s = .ok (.object taken, rest) := by
      intro taken
      rw [List.append_nil]
      exact (readWith_object_eq_ok_iff start).symm
    rw [strict, members_strictMember_eq_ok_iff []]
    simp only [collects]
  · constructor
    · intro read
      obtain ⟨t, started, read⟩ := Except.bind_eq_ok_iff.mp read
      obtain ⟨rfl, -⟩ := startOfValue_eq_ok_iff.mp started
      split at read
      · rename_i t start
        exact absurd ⟨t, start⟩ object
      · exact absurd read mismatch_ne_ok
    · rintro ⟨members, entries, read, -⟩
      exact absurd (start_of_object read) object

theorem ofStrictText_eq_ok_iff {text : String} {filters : FilterMap} :
    ofStrictText text = .ok filters ↔
      ∃ members entries, Json.read text.toList = .ok (.object members) ∧
        strictEntries? members = some entries ∧ empty.insertAll entries = filters := by
  simp only [ofStrictText, Json.read, document_eq_ok_iff, strictReader_eq_ok_iff]
  constructor
  · rintro ⟨rest, ⟨members, entries, read, strict, same⟩, blank⟩
    exact ⟨members, entries, ⟨rest, read, blank⟩, strict, same⟩
  · rintro ⟨members, entries, ⟨rest, read, blank⟩, strict, same⟩
    exact ⟨rest, ⟨members, entries, read, strict, same⟩, blank⟩

/-! ### Both readers on one text -/

theorem ofJsonText_of_read {text : String} {members : List (String × Json)}
    {entries : List (String × FilterEntry)} (read : Json.read text.toList = .ok (.object members))
    (plain : (Json.object members).Plain) (strict : strictEntries? members = some entries) :
    ofJsonText text = .ok (empty.insertAll entries) := by
  simp only [ofJsonText, Json.readExpanded_of_read plain read]
  exact ofJson_of_strictEntries? strict

/-- A text that the strict reader takes denotes its map, and the lenient reader makes the same map
of it unless an object in it starts with the reserved key. -/
theorem lenient_reads_as_strict {text : String} {filters : FilterMap}
    (accepted : ofStrictText text = .ok filters) :
    ∃ document, Json.read text.toList = .ok document ∧ document.Denotes (.nested filters) ∧
      (document.Plain → ofJsonText text = .ok filters) := by
  obtain ⟨members, entries, read, strict, rfl⟩ := ofStrictText_eq_ok_iff.mp accepted
  have whole : strictEntry? (.object members) = some (.nested (empty.insertAll entries)) :=
    Option.map_eq_some_iff.mpr ⟨entries, strict, rfl⟩
  exact ⟨_, read, denotes_of_strictEntry? whole,
    fun plain => ofJsonText_of_read read plain strict⟩

def repeatedKeys : String :=
  "\x7b\"b\":\"1\",\"a\":\x7b\"k\":\"x\",\"k\":\"y\"\x7d,\"b\":\"2\"\x7d"

theorem lenient_reads_as_strict_repeatedKeys :
    ofStrictText repeatedKeys = .ok (text "b" "2" (nested "a" (text "k" "y" empty) empty)) ∧
      ofJsonText repeatedKeys = .ok (text "b" "2" (nested "a" (text "k" "y" empty) empty)) := by
  have accepted : ofStrictText repeatedKeys =
      .ok (text "b" "2" (nested "a" (text "k" "y" empty) empty)) := by decide +kernel
  have whole : Json.read repeatedKeys.toList = .ok (.object [("b", .string "1"),
      ("a", .object [("k", .string "x"), ("k", .string "y")]), ("b", .string "2")]) := by cbv
  obtain ⟨document, read, -, agrees⟩ := lenient_reads_as_strict accepted
  obtain rfl := Except.ok.inj (read.symm.trans whole)
  refine ⟨accepted, agrees (.object (by decide) ?_)⟩
  simp only [List.forall_mem_cons]
  refine ⟨.string _, .object (by decide) ?_, .string _, List.forall_mem_nil _⟩
  simp only [List.forall_mem_cons]
  exact ⟨.string _, .string _, List.forall_mem_nil _⟩

/-- The strict reader takes a text under the reserved key, the lenient one a document. -/
theorem lenient_refuses_reserved_key :
    ofStrictText "\x7b\"$serde_json::private::RawValue\":\"x\"\x7d" =
      .ok (text "$serde_json::private::RawValue" "x" empty) ∧
    ofJsonText "\x7b\"$serde_json::private::RawValue\":\"x\"\x7d" =
      .error (.malformedFilter "filter is not valid JSON: expected value") := by
  constructor <;> decide +kernel

end FilterMap

end QueryFilter
