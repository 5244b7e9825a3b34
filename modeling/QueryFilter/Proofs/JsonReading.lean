import QueryFilter.Json.Embedded
import QueryFilter.Proofs.Except

/-!
# Rounds of the readers

What one round of `members` takes when it succeeds, and from it that an object is read alike by two
readers that read its values alike. The reader that expands embedded documents follows the plain one
on every document in which no object starts with the reserved key (`readExpanded_of_read`).
-/

namespace QueryFilter

/-- Whether no object in the document has the reserved key as its first key. -/
inductive Json.Plain : Json → Prop where
  | null : Plain .null
  | bool (value : Bool) : Plain (.bool value)
  | number (value : JsonNumber) : Plain (.number value)
  | string (value : String) : Plain (.string value)
  | array {items : List Json} (inside : ∀ item ∈ items, Plain item) : Plain (.array items)
  | object {members : List (String × Json)}
      (first : (members.map Prod.fst).head? ≠ some JsonReader.embeddedKey)
      (inside : ∀ member ∈ members, Plain member.2) : Plain (.object members)

namespace JsonReader

variable {α β σ : Type} {s rest : List Char}

theorem refuse_ne_ok {cause : SyntaxError} {a : α} : refuse cause ≠ .ok a := nofun

/-! ### Lists -/

theorem elements_mono {item other : JsonReader α} {rounds : Nat} {first : Bool} {xs : List α}
    (follows : ∀ x ∈ xs, ∀ s rest, item s = .ok (x, rest) → other s = .ok (x, rest))
    (read : elements item rounds first s = .ok (xs, rest)) :
    elements other rounds first s = .ok (xs, rest) := by
  induction rounds generalizing first s xs with
  | zero => exact absurd read refuse_ne_ok
  | succ rounds ih =>
    rw [elements] at read ⊢
    split at read
    · exact absurd read refuse_ne_ok
    · exact read
    · obtain ⟨t, next, read⟩ := Except.bind_eq_ok_iff.mp read
      obtain ⟨⟨x, t⟩, taken, read⟩ := Except.bind_eq_ok_iff.mp read
      obtain ⟨⟨ys, t⟩, others, read⟩ := Except.bind_eq_ok_iff.mp read
      obtain ⟨rfl, rfl⟩ := Prod.mk.inj (Except.ok.inj read)
      have same := follows x List.mem_cons_self _ _ taken
      have rest := ih (fun y member => follows y (List.mem_cons_of_mem _ member)) others
      exact Except.bind_eq_ok_iff.mpr ⟨_, next, Except.bind_eq_ok_iff.mpr ⟨_, same,
        Except.bind_eq_ok_iff.mpr ⟨_, rest, rfl⟩⟩⟩

/-! ### Objects -/

theorem nextKey_brace {first : Bool} {key : String} {t : List Char} :
    nextKey first ('\x7d' :: rest) ≠ .ok (key, t) := by
  cases first <;> exact refuse_ne_ok

theorem nextKey_nil {first : Bool} {key : String} {t : List Char} :
    nextKey first [] ≠ .ok (key, t) := by
  cases first <;> exact refuse_ne_ok

/-- One round: the closing brace, or a key, its member and the rounds that follow. -/
theorem members_eq_ok_iff {member : σ → String → JsonReader σ} {rounds : Nat} {first : Bool}
    {state after : σ} :
    members member (rounds + 1) first state s = .ok (after, rest) ↔
      (skipBlanks s = '\x7d' :: rest ∧ state = after) ∨
      ∃ key t, nextKey first (skipBlanks s) = .ok (key, t) ∧
        ∃ middle u, member state key t = .ok (middle, u) ∧
          members member rounds false middle u = .ok (after, rest) := by
  rw [members]
  split
  · rename_i ended
    simp [ended, refuse_ne_ok, nextKey_nil]
  · rename_i t closed
    simp [closed, nextKey_brace, and_comm]
  · rename_i ended closed
    rw [or_iff_right fun brace => closed rest brace.1]
    simp only [Except.bind_eq_ok_iff, Prod.exists]

theorem collect_eq_ok_iff {item : JsonReader α} {collected after : List (String × α)}
    {key : String} :
    collect item collected key s = .ok (after, rest) ↔
      ∃ t value, readColon s = .ok t ∧ item t = .ok (value, rest) ∧
        (key, value) :: collected = after := by
  simp only [collect, Except.bind_eq_ok_iff, Prod.exists, Except.ok.injEq, Prod.mk.injEq]
  constructor
  · rintro ⟨t, colon, value, u, read, rfl, rfl⟩
    exact ⟨t, value, colon, read, rfl⟩
  · rintro ⟨t, value, colon, read, rfl⟩
    exact ⟨t, colon, value, rest, read, rfl, rfl⟩

theorem suffix_of_collected {item : JsonReader α} {rounds : Nat} {first : Bool}
    {collected after : List (String × α)}
    (read : members (collect item) rounds first collected s = .ok (after, rest)) :
    collected <:+ after := by
  induction rounds generalizing first collected s with
  | zero => exact absurd read refuse_ne_ok
  | succ rounds ih =>
    obtain ⟨-, rfl⟩ | ⟨key, t, -, middle, u, taken, read⟩ := members_eq_ok_iff.mp read
    · exact List.suffix_rfl
    · obtain ⟨_, value, -, -, rfl⟩ := collect_eq_ok_iff.mp taken
      exact (List.suffix_cons _ _).trans (ih read)

theorem collected_mono {item other : JsonReader α} {rounds : Nat} {first : Bool}
    {collected after : List (String × α)}
    (follows : ∀ member ∈ after, ∀ s rest,
      item s = .ok (member.2, rest) → other s = .ok (member.2, rest))
    (read : members (collect item) rounds first collected s = .ok (after, rest)) :
    members (collect other) rounds first collected s = .ok (after, rest) := by
  induction rounds generalizing first collected s with
  | zero => exact absurd read refuse_ne_ok
  | succ rounds ih =>
    rw [members_eq_ok_iff] at read ⊢
    obtain closed | ⟨key, t, next, middle, u, taken, read⟩ := read
    · exact .inl closed
    · obtain ⟨v, value, colon, found, rfl⟩ := collect_eq_ok_iff.mp taken
      have member : (key, value) ∈ after :=
        (suffix_of_collected read).subset List.mem_cons_self
      have same := follows _ member _ _ found
      exact .inr ⟨key, t, next, _, u, collect_eq_ok_iff.mpr ⟨v, value, colon, same, rfl⟩, ih read⟩

theorem behindEmbeddedKey?_eq_some_iff {t : List Char} :
    behindEmbeddedKey? s = some t ↔ nextKey true (skipBlanks s) = .ok (embeddedKey, t) := by
  unfold behindEmbeddedKey?
  split
  · rename_i quoted start
    have next : nextKey true (skipBlanks s) = readString quoted := by rw [start]; rfl
    rw [next]
    cases found : readString quoted with
    | error e => simp
    | ok taken =>
      obtain ⟨key, rest⟩ := taken
      by_cases reserved : key = embeddedKey
      · simp [reserved]
      · simp [reserved]
  · rename_i unquoted
    have next : nextKey true (skipBlanks s) = refuse .keyNotString := by
      unfold nextKey
      rw [if_pos rfl]
      split
      · rename_i quoted start
        exact absurd start (unquoted quoted)
      · rfl
    simp [next, refuse_ne_ok]

theorem first_key_of_behindEmbeddedKey? {item : JsonReader α} {rounds : Nat}
    {collected : List (String × α)} {t : List Char} (embedded : behindEmbeddedKey? s = some t)
    (read : members (collect item) rounds true [] s = .ok (collected, rest)) :
    (collected.reverse.map Prod.fst).head? = some embeddedKey := by
  have reserved := behindEmbeddedKey?_eq_some_iff.mp embedded
  cases rounds with
  | zero => exact absurd read refuse_ne_ok
  | succ rounds =>
    obtain ⟨closed, -⟩ | ⟨key, u, next, middle, v, taken, read⟩ := members_eq_ok_iff.mp read
    · rw [closed] at reserved
      exact absurd reserved nextKey_brace
    · obtain ⟨rfl, rfl⟩ := Prod.mk.inj (Except.ok.inj (reserved.symm.trans next))
      obtain ⟨_, value, -, -, rfl⟩ := collect_eq_ok_iff.mp taken
      obtain ⟨later, rfl⟩ := suffix_of_collected read
      simp

/-! ### Values -/

theorem readWith_array (inner : JsonReader Json) {t : List Char} (start : skipBlanks s = '[' :: t) :
    readWith (some inner) s =
      (elements inner t.length true t).map fun (items, rest) => (.array items, rest) := by
  simp only [readWith, start]

theorem readWith_object (inner : JsonReader Json) {t : List Char}
    (start : skipBlanks s = '{' :: t) :
    readWith (some inner) s =
      (members (collect inner) t.length true [] t).map fun (collected, rest) =>
        (.object collected.reverse, rest) := by
  simp only [readWith, start]

theorem readWith_object_eq_ok_iff {inner : JsonReader Json} {t : List Char}
    (start : skipBlanks s = '\x7b' :: t) {taken : List (String × Json)} :
    readWith (some inner) s = .ok (.object taken, rest) ↔
      members (collect inner) t.length true [] t = .ok (taken.reverse, rest) := by
  rw [readWith_object inner start, Except.map_eq_ok_iff]
  simp only [Prod.exists, Prod.mk.injEq, Json.object.injEq]
  constructor
  · rintro ⟨collected, u, read, rfl, rfl⟩
    rwa [List.reverse_reverse]
  · intro read
    exact ⟨taken.reverse, rest, read, List.reverse_reverse taken, rfl⟩

theorem readWith_scalar (inner? other? : Option (JsonReader Json))
    (array : ∀ t, skipBlanks s ≠ '[' :: t) (object : ∀ t, skipBlanks s ≠ '\x7b' :: t) :
    readWith inner? s = readWith other? s := by
  unfold readWith
  split
  case h_6 t start => exact absurd start (array t)
  case h_7 t start => exact absurd start (object t)
  all_goals rfl

theorem readWith_cases {inner : JsonReader Json} {json : Json}
    (read : readWith (some inner) s = .ok (json, rest)) :
    (∃ t items, skipBlanks s = '[' :: t ∧ json = .array items ∧
      elements inner t.length true t = .ok (items, rest)) ∨
    (∃ t collected, skipBlanks s = '\x7b' :: t ∧ json = .object collected.reverse ∧
      members (collect inner) t.length true [] t = .ok (collected, rest)) ∨
    ((∀ t, skipBlanks s ≠ '[' :: t) ∧ ∀ t, skipBlanks s ≠ '\x7b' :: t) := by
  by_cases array : ∃ t, skipBlanks s = '[' :: t
  · obtain ⟨t, start⟩ := array
    rw [readWith_array inner start] at read
    obtain ⟨⟨items, u⟩, taken, same⟩ := Except.map_eq_ok_iff.mp read
    obtain ⟨rfl, rfl⟩ := Prod.mk.inj same
    exact .inl ⟨t, items, start, rfl, taken⟩
  by_cases object : ∃ t, skipBlanks s = '\x7b' :: t
  · obtain ⟨t, start⟩ := object
    rw [readWith_object inner start] at read
    obtain ⟨⟨collected, u⟩, taken, same⟩ := Except.map_eq_ok_iff.mp read
    obtain ⟨rfl, rfl⟩ := Prod.mk.inj same
    exact .inr (.inl ⟨t, collected, start, rfl, taken⟩)
  · exact .inr (.inr ⟨fun t start => array ⟨t, start⟩, fun t start => object ⟨t, start⟩⟩)

theorem behindEmbeddedKey?_of_plain {item : JsonReader Json} {rounds : Nat}
    {collected : List (String × Json)} (plain : (Json.object collected.reverse).Plain)
    (read : members (collect item) rounds true [] s = .ok (collected, rest)) :
    behindEmbeddedKey? s = none := by
  cases embedded : behindEmbeddedKey? s with
  | none => rfl
  | some t =>
    cases plain with
    | object first inside =>
      exact absurd (first_key_of_behindEmbeddedKey? embedded read) first

theorem expandWith_ordinary (parse : List Char → Except JsonError Json)
    (inner? : Option (JsonReader Json))
    (ordinary : ∀ t, skipBlanks s = '\x7b' :: t → behindEmbeddedKey? t = none) :
    expandWith parse inner? s = readWith inner? s := by
  unfold expandWith
  split
  · rename_i t _ start
    rw [ordinary t start]
  · rfl

theorem expandWith_object (parse : List Char → Except JsonError Json)
    (inner? : Option (JsonReader Json)) {t : List Char} (start : skipBlanks s = '\x7b' :: t)
    (ordinary : behindEmbeddedKey? t = none) : expandWith parse inner? s = readWith inner? s := by
  refine expandWith_ordinary parse inner? fun u object => ?_
  rw [start] at object
  exact (List.cons.inj object).2 ▸ ordinary

theorem expandValue_of_readValue (parse : List Char → Except JsonError Json) {depth : Nat}
    {json : Json} (plain : json.Plain) (read : readValue depth s = .ok (json, rest)) :
    expandValue parse depth s = .ok (json, rest) := by
  induction depth generalizing s rest json with
  | zero => rwa [expandValue, expandWith_none]
  | succ depth ih =>
    rw [readValue] at read
    rw [expandValue]
    obtain ⟨t, items, start, rfl, taken⟩ | ⟨t, collected, start, rfl, taken⟩ | ⟨array, object⟩ :=
      readWith_cases read
    · cases plain with
      | array inside =>
        have follows : elements (expandValue parse depth) t.length true t = .ok (items, rest) :=
          elements_mono (fun item member s rest => ih (inside item member)) taken
        rw [expandWith_ordinary parse _ fun u object => by simp [start] at object,
          readWith_array _ start, follows]
        rfl
    · have ordinary : behindEmbeddedKey? t = none := behindEmbeddedKey?_of_plain plain taken
      cases plain with
      | object first inside =>
        have follows : members (collect (expandValue parse depth)) t.length true [] t =
            .ok (collected, rest) :=
          collected_mono
            (fun member inAfter s rest => ih (inside member (List.mem_reverse.mpr inAfter))) taken
        rw [expandWith_object parse _ start ordinary, readWith_object _ start, follows]
        rfl
    · rwa [expandWith_ordinary parse _ fun t start => absurd start (object t),
        readWith_scalar _ (some (readValue depth)) array object]

theorem document_eq_ok_iff {reader : JsonReader α} {value : α} :
    document reader s = .ok value ↔
      ∃ rest, reader s = .ok (value, rest) ∧ skipBlanks rest = [] := by
  simp only [document, Except.bind_eq_ok_iff, Prod.exists]
  constructor
  · rintro ⟨found, rest, read, ended⟩
    split at ended
    · rename_i blank
      exact ⟨rest, Except.ok.inj ended ▸ read, blank⟩
    · exact absurd ended refuse_ne_ok
  · rintro ⟨rest, read, blank⟩
    exact ⟨value, rest, read, if_pos blank⟩

end JsonReader

open JsonReader in
theorem Json.readExpanded_of_read {text : List Char} {json : Json} (plain : json.Plain)
    (read : Json.read text = .ok json) : Json.readExpanded text = .ok json := by
  obtain ⟨rest, taken, blank⟩ := document_eq_ok_iff.mp read
  exact document_eq_ok_iff.mpr ⟨rest, expandValue_of_readValue _ plain taken, blank⟩

end QueryFilter
