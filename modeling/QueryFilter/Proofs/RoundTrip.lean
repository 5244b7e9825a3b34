import QueryFilter.Proofs.Composition
import QueryFilter.Proofs.JsonText
import QueryFilter.Proofs.StrictReading

/-!
# Filter maps survive being written and read

What the writer makes of a filter map reads back as the map (`readValue_written`), and to no greater
depth than documents may nest: of a deeper map nothing is read at all (`depth_of_expandValue`).
-/

namespace QueryFilter

open JsonReader
open Json (write membersText)

variable {rest u : List Char}

/-! ### Entries as they are written -/

def FilterEntry.toJson : FilterEntry → Json
  | .text raw => .string raw
  | .nested filters => filters.toJson

def FilterEntry.depth : FilterEntry → Nat
  | .text _ => 0
  | .nested filters => filters.depth

namespace FilterMap

theorem members_eq_map (filters : FilterMap) :
    filters.members = filters.entries.map fun entry => (entry.1, entry.2.toJson) := by
  induction filters with
  | empty => rw [members, entries, List.map_nil]
  | text key raw rest ih => rw [members, ih, entries, List.map_cons, FilterEntry.toJson]
  | nested key inner rest _ ih => rw [members, ih, entries, List.map_cons, FilterEntry.toJson]

theorem depth_pos (filters : FilterMap) : 0 < filters.depth := by
  induction filters with
  | empty => exact Nat.zero_lt_one
  | text key raw rest ih => exact ih
  | nested key inner rest _ ih => exact Nat.lt_of_lt_of_le ih (Nat.le_max_right _ _)

theorem depth_le_succ_iff {filters : FilterMap} {depth : Nat} :
    filters.depth ≤ depth + 1 ↔ ∀ entry ∈ filters.entries, entry.2.depth ≤ depth := by
  induction filters with
  | empty => simp [FilterMap.depth, entries]
  | text key raw rest ih =>
    rw [FilterMap.depth, ih]
    simp [entries, FilterEntry.depth]
  | nested key inner rest _ ih =>
    rw [FilterMap.depth, Nat.max_le, ih, Nat.add_le_add_iff_right]
    simp [entries, FilterEntry.depth]

theorem insertAll_entries {filters : FilterMap} (distinct : filters.Distinct) :
    empty.insertAll filters.entries = filters := by
  rw [insertAll_eq_append distinct fun _ _ => List.not_mem_nil, empty_append]

theorem strictEntries?_members {filters : FilterMap} (distinct : filters.Distinct) :
    strictEntries? filters.members = some filters.entries := by
  induction filters with
  | empty => rw [members]; rfl
  | text key raw rest ih =>
    rw [members, strictEntries?, ih distinct.2]
    rfl
  | nested key inner rest ihInner ih =>
    obtain ⟨-, distinctInner, distinctRest⟩ := distinct
    have here : strictEntry? inner.toJson = some (.nested inner) := by
      rw [toJson]
      exact Option.map_eq_some_iff.mpr
        ⟨_, ihInner distinctInner, congrArg _ (insertAll_entries distinctInner)⟩
    rw [members, strictEntries?, here, ih distinctRest]
    rfl

end FilterMap

namespace JsonReader

/-! ### What was written is read -/

theorem skipBlanks_string (raw : String) (rest : List Char) :
    skipBlanks (write (.string raw) ++ rest) =
      '"' :: (raw.toList.flatMap Json.escaped ++ '"' :: rest) := by
  simp [write, Json.writeString]
  rfl

theorem skipBlanks_object (members : List (String × Json)) (rest : List Char) :
    skipBlanks (write (.object members) ++ rest) = '\x7b' :: membersText true members rest := by
  rw [Json.write_object_append]
  rfl

theorem readWith_string (inner? : Option (JsonReader Json)) (raw : String) (rest : List Char) :
    readWith inner? (write (.string raw) ++ rest) = .ok (.string raw, rest) := by
  simp only [readWith, skipBlanks_string, readString_written, Except.map]

theorem readValue_written (entry : FilterEntry) {depth : Nat} (shallow : entry.depth ≤ depth)
    (rest : List Char) :
    readValue depth (write entry.toJson ++ rest) = .ok (entry.toJson, rest) := by
  induction depth generalizing entry rest with
  | zero =>
    cases entry with
    | text raw => exact readWith_string none raw rest
    | nested filters => exact absurd shallow (Nat.not_le.mpr filters.depth_pos)
  | succ depth ih =>
    cases entry with
    | text raw => exact readWith_string _ raw rest
    | nested filters =>
      have inside : ∀ member ∈ filters.members, ∀ rest,
          readValue depth (write member.2 ++ rest) = .ok (member.2, rest) := by
        rw [FilterMap.members_eq_map]
        intro member inMap rest
        obtain ⟨entry, inEntries, rfl⟩ := List.mem_map.mp inMap
        exact ih entry.2 (FilterMap.depth_le_succ_iff.mp shallow entry inEntries) rest
      rw [FilterEntry.toJson, FilterMap.toJson]
      refine (readWith_object_eq_ok_iff (skipBlanks_object _ rest)).mpr ?_
      rw [collected_written inside (Json.length_lt_membersText _ _ _), List.append_nil]

/-! ### What is too deep is refused -/

theorem behindEmbeddedKey?_membersText {members : List (String × Json)} {t : List Char}
    (embedded : behindEmbeddedKey? (membersText true members rest) = some t) :
    ∃ value others, members = (embeddedKey, value) :: others ∧
      t = ':' :: (write value ++ membersText false others rest) := by
  have reserved := behindEmbeddedKey?_eq_some_iff.mp embedded
  cases members with
  | nil => exact absurd reserved nextKey_brace
  | cons member others =>
    obtain ⟨key, value⟩ := member
    rw [nextKey_membersText] at reserved
    obtain ⟨rfl, rfl⟩ := Prod.mk.inj (Except.ok.inj reserved)
    exact ⟨value, others, rfl, rfl⟩

theorem flat_of_readEmbedded {parse : List Char → Except JsonError Json} {entry : FilterEntry}
    {others : List (String × Json)} {value : Json}
    (read : readEmbedded parse (':' :: (write entry.toJson ++ membersText false others rest)) =
      .ok (value, u)) :
    u = rest ∧ others = [] ∧ entry.depth = 0 := by
  obtain ⟨t, colon, read⟩ := Except.bind_eq_ok_iff.mp read
  obtain rfl := Except.ok.inj colon
  obtain ⟨⟨text, t⟩, found, read⟩ := Except.bind_eq_ok_iff.mp read
  obtain ⟨document, -, read⟩ := Except.bind_eq_ok_iff.mp read
  obtain ⟨v, ended, read⟩ := Except.bind_eq_ok_iff.mp read
  obtain ⟨rfl, rfl⟩ := Prod.mk.inj (Except.ok.inj read)
  obtain ⟨start, started, found⟩ := Except.bind_eq_ok_iff.mp found
  obtain ⟨rfl, -⟩ := startOfValue_eq_ok_iff.mp started
  cases entry with
  | nested filters =>
    rw [FilterEntry.toJson, FilterMap.toJson, skipBlanks_object] at found
    exact absurd found mismatch_ne_ok
  | text raw =>
    rw [FilterEntry.toJson, skipBlanks_string] at found
    obtain ⟨-, rfl⟩ := Prod.mk.inj (Except.ok.inj ((readString_written raw _).symm.trans found))
    cases others with
    | nil => exact ⟨(Except.ok.inj ended).symm, rfl, rfl⟩
    | cons member others => exact absurd ended refuse_ne_ok

theorem depth_of_readEmbedded {parse : List Char → Except JsonError Json} {filters : FilterMap}
    {t : List Char} {value : Json} (depth : Nat)
    (embedded : behindEmbeddedKey? (membersText true filters.members rest) = some t)
    (read : readEmbedded parse t = .ok (value, u)) :
    u = rest ∧ filters.depth ≤ depth + 1 := by
  obtain ⟨value, others, same, rfl⟩ := behindEmbeddedKey?_membersText embedded
  rw [FilterMap.members_eq_map] at same
  obtain ⟨entry, entries, whole, here, later⟩ := List.map_eq_cons_iff.mp same
  obtain ⟨-, rfl⟩ := Prod.mk.inj here
  obtain ⟨rfl, rfl, flat⟩ := flat_of_readEmbedded read
  obtain rfl := List.map_eq_nil_iff.mp later
  refine ⟨rfl, FilterMap.depth_le_succ_iff.mpr fun other member => ?_⟩
  rw [whole, List.mem_singleton] at member
  rw [member, flat]
  exact Nat.zero_le depth

theorem depth_of_collected {item : JsonReader Json} {filters : FilterMap} {depth rounds : Nat}
    {collected after : List (String × Json)}
    (reads : ∀ (entry : FilterEntry) rest value u,
      item (write entry.toJson ++ rest) = .ok (value, u) → u = rest ∧ entry.depth ≤ depth)
    (read : members (collect item) rounds true collected (membersText true filters.members rest) =
      .ok (after, u)) :
    u = rest ∧ filters.depth ≤ depth + 1 := by
  rw [FilterMap.members_eq_map] at read
  obtain ⟨rfl, shallow⟩ := written_of_collected
    (fun json => ∀ entry : FilterEntry, json = entry.toJson → entry.depth ≤ depth)
    (fun member inMap rest value u found => by
      obtain ⟨entry, -, rfl⟩ := List.mem_map.mp inMap
      exact ⟨(reads _ _ _ _ found).1, fun other same => (reads other _ _ _ (same ▸ found)).2⟩) read
  exact ⟨rfl, FilterMap.depth_le_succ_iff.mpr fun entry member =>
    shallow _ (List.mem_map_of_mem member) entry.2 rfl⟩

theorem expandValue_string (parse : List Char → Except JsonError Json) (depth : Nat) (raw : String)
    (rest : List Char) :
    expandValue parse depth (write (.string raw) ++ rest) = .ok (.string raw, rest) := by
  have ordinary : ∀ t, skipBlanks (write (.string raw) ++ rest) = '\x7b' :: t →
      behindEmbeddedKey? t = none := by
    intro t object
    rw [skipBlanks_string] at object
    exact absurd (List.cons.inj object).1 (by decide)
  cases depth with
  | zero => exact (expandWith_ordinary parse none ordinary).trans (readWith_string none raw rest)
  | succ depth => exact (expandWith_ordinary parse _ ordinary).trans (readWith_string _ raw rest)

theorem rest_of_expandValue_string {parse : List Char → Except JsonError Json} {depth : Nat}
    {raw : String} {value : Json}
    (read : expandValue parse depth (write (.string raw) ++ rest) = .ok (value, u)) : u = rest := by
  rw [expandValue_string] at read
  exact (Prod.mk.inj (Except.ok.inj read)).2.symm

/-- A map in a text is read to its end or not at all, and only if it nests to the depth at most. -/
theorem depth_of_expandValue (entry : FilterEntry) {parse : List Char → Except JsonError Json}
    {depth : Nat} {value : Json}
    (read : expandValue parse depth (write entry.toJson ++ rest) = .ok (value, u)) :
    u = rest ∧ entry.depth ≤ depth := by
  induction depth generalizing entry rest value u with
  | zero =>
    cases entry with
    | text raw => exact ⟨rest_of_expandValue_string read, Nat.le_refl 0⟩
    | nested filters =>
      rw [expandValue, expandWith_none, FilterEntry.toJson, FilterMap.toJson] at read
      simp only [readWith, skipBlanks_object] at read
      exact absurd read refuse_ne_ok
  | succ depth ih =>
    cases entry with
    | text raw => exact ⟨rest_of_expandValue_string read, Nat.zero_le _⟩
    | nested filters =>
      rw [expandValue, FilterEntry.toJson, FilterMap.toJson] at read
      rw [FilterEntry.depth]
      -- Either the members are read one by one, or the map is one text under the reserved key.
      cases embedded : behindEmbeddedKey? (membersText true filters.members rest) with
      | none =>
        have start := skipBlanks_object filters.members rest
        rw [expandWith_object parse _ start embedded, readWith_object _ start] at read
        obtain ⟨⟨collected, v⟩, taken, same⟩ := Except.map_eq_ok_iff.mp read
        obtain ⟨-, rfl⟩ := Prod.mk.inj same
        exact depth_of_collected (fun entry rest value u read => ih entry read) taken
      | some t =>
        simp only [expandWith, skipBlanks_object, embedded] at read
        exact depth_of_readEmbedded depth embedded read

end JsonReader

namespace FilterMap

/-! ### Both readers on the text of a map -/

theorem read_toJsonText {filters : FilterMap} (shallow : filters.depth ≤ Json.greatestDepth) :
    Json.read filters.toJsonText.toList = .ok (.object filters.members) := by
  have read : readValue Json.greatestDepth (write filters.toJson ++ []) =
      .ok (filters.toJson, []) := readValue_written (.nested filters) shallow []
  rw [List.append_nil, toJson] at read
  refine document_eq_ok_iff.mpr ⟨[], ?_, rfl⟩
  rw [toJsonText, Json.render, String.toList_ofList, toJson]
  exact read

theorem ofStrictText_toJsonText {filters : FilterMap} (distinct : filters.Distinct)
    (shallow : filters.depth ≤ Json.greatestDepth) :
    ofStrictText filters.toJsonText = .ok filters :=
  ofStrictText_eq_ok_iff.mpr ⟨filters.members, filters.entries, read_toJsonText shallow,
    strictEntries?_members distinct, insertAll_entries distinct⟩

theorem ofJsonText_toJsonText {filters : FilterMap} (distinct : filters.Distinct)
    (shallow : filters.depth ≤ Json.greatestDepth) (plain : filters.toJson.Plain) :
    ofJsonText filters.toJsonText = .ok filters := by
  rw [toJson] at plain
  rw [ofJsonText_of_read (read_toJsonText shallow) plain (strictEntries?_members distinct),
    insertAll_entries distinct]

theorem refused_of_deep {filters : FilterMap} (deep : Json.greatestDepth < filters.depth) :
    ∃ message, ofJsonText filters.toJsonText = .error (.malformedFilter message) := by
  unfold ofJsonText
  cases read : Json.readExpanded filters.toJsonText.toList with
  | error e => exact ⟨_, rfl⟩
  | ok json =>
    obtain ⟨rest, read, -⟩ := document_eq_ok_iff.mp read
    rw [toJsonText, Json.render, String.toList_ofList, ← List.append_nil (write _)] at read
    have shallow : filters.depth ≤ Json.greatestDepth :=
      (depth_of_expandValue (.nested filters) read).2
    exact absurd deep (Nat.not_lt.mpr shallow)

/-- A map that nests no deeper than documents may is read back from its text, by the lenient reader
if no level starts with the reserved key. -/
theorem json_round_trip {filters : FilterMap} (distinct : filters.Distinct) :
    (filters.depth ≤ 127 →
      ofStrictText filters.toJsonText = .ok filters ∧
      (filters.toJson.Plain → ofJsonText filters.toJsonText = .ok filters)) ∧
    (127 < filters.depth →
      ∃ message, ofJsonText filters.toJsonText = .error (.malformedFilter message)) :=
  ⟨fun shallow => ⟨ofStrictText_toJsonText distinct shallow,
    ofJsonText_toJsonText distinct shallow⟩, refused_of_deep⟩

/-- As many maps as `height` nested in a map, each alone and under one key. -/
def tower (key : String) : (height : Nat) → FilterMap
  | 0 => empty
  | height + 1 => nested key (tower key height) empty

theorem distinct_tower (key : String) (height : Nat) : (tower key height).Distinct := by
  induction height with
  | zero => trivial
  | succ height ih => exact ⟨List.not_mem_nil, ih, trivial⟩

theorem depth_tower (key : String) (height : Nat) : (tower key height).depth = height + 1 := by
  induction height with
  | zero => rfl
  | succ height ih =>
    rw [tower, FilterMap.depth, FilterMap.depth, ih]
    omega

/-- A quote and a line break in a text, an empty map and an empty text. -/
def awkward : FilterMap :=
  text "name|like" "\"é\"\n" (nested "artist" empty (text "note" "" empty))

theorem json_round_trip_awkward :
    ofStrictText awkward.toJsonText = .ok awkward ∧
      ofJsonText awkward.toJsonText = .ok awkward ∧
      ∃ message, ofJsonText (tower "artist" 127).toJsonText =
        .error (.malformedFilter message) := by
  have distinct : awkward.Distinct := by simp [awkward, FilterMap.Distinct, keys, entries]
  have plain : awkward.toJson.Plain := by
    simp only [awkward, toJson, members]
    refine .object (by decide) ?_
    simp only [List.forall_mem_cons]
    exact ⟨.string _, .object (by decide) (List.forall_mem_nil _), .string _, List.forall_mem_nil _⟩
  have deep : 127 < (tower "artist" 127).depth := by
    rw [depth_tower]
    decide
  obtain ⟨strict, lenient⟩ := (json_round_trip distinct).1 (by decide)
  exact ⟨strict, lenient plain, (json_round_trip (distinct_tower "artist" 127)).2 deep⟩

/-- Under the reserved key the lenient reader finds a document in the place of a text. -/
theorem reserved_key_is_lost :
    (text embeddedKey "\x7b\x7d" empty).Distinct ∧
      (text embeddedKey "\x7b\x7d" empty).depth = 1 ∧
      ofStrictText (text embeddedKey "\x7b\x7d" empty).toJsonText =
        .ok (text embeddedKey "\x7b\x7d" empty) ∧
      ofJsonText (text embeddedKey "\x7b\x7d" empty).toJsonText = .ok empty := by
  have distinct : (text embeddedKey "\x7b\x7d" empty).Distinct := by
    simp [FilterMap.Distinct, keys, entries]
  refine ⟨distinct, rfl, ofStrictText_toJsonText distinct (by decide), ?_⟩
  cbv

end FilterMap

end QueryFilter
