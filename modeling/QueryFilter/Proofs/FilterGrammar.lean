import QueryFilter.Proofs.JsonLists

/-!
# The grammar of lenient filters

The lenient reader takes an object whose lists, and those of the objects inside of it, hold scalars
only. It makes an entry of every member that is not null, in their order (`ofMembers_eq_ok_iff`),
or complains about the first list in the document that holds anything else
(`failure?_ofMembers`). Lists inside of lists never count for themselves.
-/

namespace QueryFilter

namespace Json

/-! ### Documents -/

section
variable {motive : Json → Prop} (null : motive .null) (bool : ∀ value, motive (.bool value))
  (number : ∀ value, motive (.number value)) (string : ∀ value, motive (.string value))
  (array : ∀ items, (∀ item ∈ items, motive item) → motive (.array items))
  (object : ∀ members, (∀ member ∈ members, motive member.2) → motive (.object members))

include null bool number string array object

/-- Induction on the items of lists and on the values of members. -/
theorem nested_induction (json : Json) : motive json :=
  @Json.rec motive (fun items => ∀ item ∈ items, motive item)
    (fun members => ∀ member ∈ members, motive member.2) (fun member => motive member.2)
    null bool number string array object
    (List.forall_mem_nil _) (fun _ _ first others => List.forall_mem_cons.mpr ⟨first, others⟩)
    (List.forall_mem_nil _) (fun _ _ first others => List.forall_mem_cons.mpr ⟨first, others⟩)
    (fun _ _ value => value) json

end

/-- Whether no object in the document has a key twice. -/
inductive Distinct : Json → Prop where
  | null : Distinct .null
  | scalar {value : Json} (scalar : value.isScalar = true) : Distinct value
  | array {items : List Json} (inside : ∀ item ∈ items, Distinct item) : Distinct (.array items)
  | object {members : List (String × Json)} (keys : (members.map Prod.fst).Nodup)
      (inside : ∀ member ∈ members, Distinct member.2) : Distinct (.object members)

theorem normalize_of_distinct {json : Json} (distinct : json.Distinct) :
    json.normalize = json := by
  induction distinct with
  | null => rfl
  | @scalar value scalar => exact normalize_of_isScalar scalar
  | @array items inside ih =>
    rw [normalize, normalizeItems_eq_map, List.map_congr_left ih, List.map_id']
  | @object members keys inside ih =>
    have same : members.map (fun member => (member.1, member.2.normalize)) = members := by
      refine (List.map_congr_left fun member found => ?_).trans (List.map_id' members)
      exact Prod.ext rfl (ih member found)
    rw [normalize, normalizeMembers_eq_map, same, settle_of_nodup keys]

theorem distinct_normalize (json : Json) : json.normalize.Distinct := by
  induction json using nested_induction with
  | null => exact .null
  | bool | number | string => exact .scalar rfl
  | array items ih =>
    rw [normalize, normalizeItems_eq_map]
    refine .array fun item found => ?_
    obtain ⟨own, listed, rfl⟩ := List.mem_map.mp found
    exact ih own listed
  | object members ih =>
    rw [normalize, normalizeMembers_eq_map]
    refine .object ?_ fun member found => ?_
    · exact nodup_settle _
    · obtain ⟨own, listed, rfl⟩ := List.mem_map.mp (mem_of_mem_settle found)
      exact ih own listed

/-! ### What a document makes -/

def isNull : Json → Bool
  | null => true
  | bool _ | number _ | string _ | array _ | object _ => false

def present (members : List (String × Json)) : List (String × Json) :=
  members.filter fun member => !member.2.isNull

/-- A scalar gives its text, a list of scalars their texts, and an object the map of what its
members that are not null give. -/
inductive Yields : Json → FilterEntry → Prop where
  | scalar {value : Json} {raw : String} (text : FilterMap.scalarText? value = some raw) :
      Yields value (.text raw)
  | list {items : List Json} (scalars : ∀ item ∈ items, item.isScalar = true) :
      Yields (.array items) (.text (FilterMap.listed items))
  | nested {members : List (String × Json)} {filters : FilterMap}
      (keys : filters.keys = (present members).map Prod.fst)
      (values : List.Forall₂ Yields ((present members).map Prod.snd)
        (filters.entries.map Prod.snd)) :
      Yields (.object members) (.nested filters)

theorem yields_object_iff {members : List (String × Json)} {entry : FilterEntry} :
    (object members).Yields entry ↔
      ∃ filters : FilterMap,
        (filters.keys = (present members).map Prod.fst ∧
          List.Forall₂ Yields ((present members).map Prod.snd) (filters.entries.map Prod.snd)) ∧
        .nested filters = entry := by
  constructor
  · intro yields
    cases yields with
    | scalar text => exact nomatch text
    | nested keys values => exact ⟨_, ⟨keys, values⟩, rfl⟩
  · rintro ⟨filters, ⟨keys, values⟩, rfl⟩
    exact .nested keys values

/-- The members of an object, or of an object that is reached from it by members alone. -/
inductive Inside (object : List (String × Json)) : List (String × Json) → Prop where
  | same : Inside object object
  | member {key : String} {inner members : List (String × Json)}
      (nested : (key, .object inner) ∈ members) (inside : Inside object inner) :
      Inside object members

/-- Whether the document is an object all of whose lists, on every level of objects, hold scalars
only. -/
def IsFilter (json : Json) : Prop :=
  ∃ members, json = .object members ∧ ∀ object, Inside object members →
    ∀ key items, (key, .array items) ∈ object → ∀ item ∈ items, item.isScalar = true

/-! ### The lists of a document -/

mutual

/-- The lists in a member, in document order; objects are entered and lists are not. -/
def listsOf (key : String) : Json → List (String × List Json)
  | .array items => [(key, items)]
  | .object members => lists members
  | .null | .bool _ | .number _ | .string _ => []

def lists : List (String × Json) → List (String × List Json)
  | [] => []
  | (key, value) :: rest => listsOf key value ++ lists rest

end

theorem lists_eq_flatMap (members : List (String × Json)) :
    lists members = members.flatMap fun member => listsOf member.1 member.2 := by
  induction members with
  | nil => rw [lists, List.flatMap_nil]
  | cons member rest ih => rw [lists, ih, List.flatMap_cons]

theorem exists_inside_of_mem_listsOf (json : Json) {key other : String} {items : List Json}
    (found : (other, items) ∈ listsOf key json) :
    (other = key ∧ json = .array items) ∨
      ∃ members object, json = .object members ∧ Inside object members ∧
        (other, .array items) ∈ object := by
  induction json using nested_induction generalizing key with
  | null | bool | number | string => rw [listsOf] at found; exact nomatch found
  | array own =>
    rw [listsOf, List.mem_singleton] at found
    obtain ⟨rfl, rfl⟩ := Prod.mk.inj found
    exact .inl ⟨rfl, rfl⟩
  | object members ih =>
    rw [listsOf, lists_eq_flatMap] at found
    obtain ⟨⟨k, value⟩, member, found⟩ := List.mem_flatMap.mp found
    rcases ih _ member found with ⟨rfl, rfl⟩ | ⟨inner, object, rfl, inside, listed⟩
    · exact .inr ⟨members, members, rfl, .same, member⟩
    · exact .inr ⟨members, object, rfl, .member member inside, listed⟩

theorem mem_lists_iff {members : List (String × Json)} {key : String} {items : List Json} :
    (key, items) ∈ lists members ↔
      ∃ object, Inside object members ∧ (key, .array items) ∈ object := by
  constructor
  · intro found
    have whole : (key, items) ∈ listsOf "" (.object members) := by rwa [listsOf]
    rcases exists_inside_of_mem_listsOf _ whole with ⟨-, same⟩ | ⟨own, object, same, inside, listed⟩
    · exact nomatch same
    · obtain rfl := Json.object.inj same
      exact ⟨object, inside, listed⟩
  · rintro ⟨object, inside, listed⟩
    induction inside with
    | same =>
      rw [lists_eq_flatMap]
      refine List.mem_flatMap.mpr ⟨_, listed, ?_⟩
      rw [listsOf]
      exact List.mem_singleton_self _
    | member member inside ih =>
      rw [lists_eq_flatMap]
      refine List.mem_flatMap.mpr ⟨_, member, ?_⟩
      rw [listsOf]
      exact ih

/-- Whether a list holds anything but scalars. -/
def offends (list : String × List Json) : Bool := !list.2.all isScalar

end Json

namespace FilterMap

open Json (isScalar present Yields lists listsOf offends)

/-! ### What the reader makes -/

theorem isSome_scalarText? (value : Json) : (scalarText? value).isSome = value.isScalar := by
  cases value <;> rfl

theorem entryOfJson_of_scalar {value : Json} {raw : String} (text : scalarText? value = some raw)
    (key : String) : entryOfJson key value = .ok (some (.text raw)) := by
  cases value with
  | bool | number | string =>
    obtain rfl := Option.some.inj text
    rfl
  | null | array | object => exact nomatch text

theorem listText_of_offends {key : String} {items : List Json}
    (offending : offends (key, items) = true) :
    listText key items = .error (.malformedFilter (listMessage key)) := by
  have refused : items.mapM scalarText? = none := by
    induction items with
    | nil => exact nomatch offending
    | cons item rest ih =>
      rw [List.mapM_cons]
      cases text : scalarText? item with
      | none => rfl
      | some raw =>
        have scalar : item.isScalar = true := by rw [← isSome_scalarText?, text, Option.isSome_some]
        have later : offends (key, rest) = true := by simpa [offends, scalar] using offending
        rw [ih later]
        rfl
  rw [listText, refused]

theorem scalars_of_not_offends {list : String × List Json} (sound : offends list = false) :
    ∀ item ∈ list.2, item.isScalar = true := by
  simpa [offends] using sound

theorem entryOfJson_eq_none_iff {key : String} {value : Json} :
    entryOfJson key value = .ok none ↔ value = .null := by
  cases value with
  | null => simp [entryOfJson]
  | bool | number | string => simp [entryOfJson]
  | array items =>
    rw [entryOfJson]
    cases listText key items <;> simp [Except.map]
  | object members =>
    rw [entryOfJson]
    cases ofMembers members <;> simp [Except.map]

theorem ofMembers_null (key : String) (rest : List (String × Json)) :
    ofMembers ((key, .null) :: rest) = ofMembers rest := by
  rw [ofMembers, entryOfJson]
  cases ofMembers rest <;> rfl

theorem ofMembers_cons_eq_ok_iff {key : String} {value : Json} (some : value ≠ .null)
    {rest : List (String × Json)} {filters : FilterMap} :
    ofMembers ((key, value) :: rest) = .ok filters ↔
      ∃ entry others, entryOfJson key value = .ok (.some entry) ∧ ofMembers rest = .ok others ∧
        cons key entry others = filters := by
  rw [ofMembers]
  cases made : entryOfJson key value with
  | error e => simp [bind, Except.bind]
  | ok entry? =>
    cases entry? with
    | none => exact absurd (entryOfJson_eq_none_iff.mp made) some
    | some entry => cases ofMembers rest <;> simp [bind, Except.bind]

theorem exists_cons_of_keys {filters : FilterMap} {key : String} {keys : List String}
    (same : filters.keys = key :: keys) :
    ∃ entry rest, cons key entry rest = filters ∧ rest.keys = keys := by
  cases filters using cons_induction with
  | empty => exact nomatch same
  | cons k entry rest _ =>
    rw [keys_cons] at same
    obtain ⟨rfl, rfl⟩ := List.cons.inj same
    exact ⟨entry, rest, rfl, rfl⟩

theorem ofMembers_eq_ok_iff_of {members : List (String × Json)}
    (values : ∀ member ∈ members, ∀ key entry,
      entryOfJson key member.2 = .ok (some entry) ↔ member.2.Yields entry) {filters : FilterMap} :
    ofMembers members = .ok filters ↔
      filters.keys = (present members).map Prod.fst ∧
        List.Forall₂ Yields ((present members).map Prod.snd) (filters.entries.map Prod.snd) := by
  induction members generalizing filters with
  | nil =>
    rw [ofMembers, Except.ok.injEq]
    constructor
    · rintro rfl
      exact ⟨rfl, .nil⟩
    · rintro ⟨keys, -⟩
      cases filters using cons_induction with
      | empty => rfl
      | cons key entry rest _ =>
        rw [keys_cons] at keys
        cases keys
  | cons member rest ih =>
    obtain ⟨key, value⟩ := member
    obtain ⟨first, others⟩ := List.forall_mem_cons.mp values
    by_cases null : value = .null
    · subst null
      have skipped : present ((key, .null) :: rest) = present rest := rfl
      rw [ofMembers_null, skipped, ih others]
    · have kept : present ((key, value) :: rest) = (key, value) :: present rest :=
        List.filter_cons_of_pos (by cases value <;> first | rfl | exact absurd rfl null)
      rw [ofMembers_cons_eq_ok_iff null, kept, List.map_cons, List.map_cons]
      constructor
      · rintro ⟨entry, taken, made, read, rfl⟩
        obtain ⟨keys, entries⟩ := (ih others).mp read
        rw [keys_cons, keys, entries_cons, List.map_cons]
        exact ⟨rfl, .cons ((first key entry).mp made) entries⟩
      · rintro ⟨keys, entries⟩
        obtain ⟨entry, taken, rfl, keysTaken⟩ := exists_cons_of_keys keys
        rw [entries_cons, List.map_cons, List.forall₂_cons] at entries
        exact ⟨entry, taken, (first key entry).mpr entries.1,
          (ih others).mpr ⟨keysTaken, entries.2⟩, rfl⟩

theorem entryOfJson_array_eq_some_iff {key : String} {items : List Json} {entry : FilterEntry} :
    entryOfJson key (.array items) = .ok (some entry) ↔ (Json.array items).Yields entry := by
  rw [entryOfJson, Except.map_eq_ok_iff]
  constructor
  · rintro ⟨raw, read, made⟩
    obtain rfl := Option.some.inj made
    cases offending : offends (key, items) with
    | true =>
      rw [listText_of_offends offending] at read
      cases read
    | false =>
      have scalars := scalars_of_not_offends offending
      obtain rfl := Except.ok.inj ((listText_eq_listed scalars key).symm.trans read)
      exact .list scalars
  · intro yields
    cases yields with
    | scalar text => cases text
    | list scalars => exact ⟨_, listText_eq_listed scalars key, rfl⟩

theorem entryOfJson_object_eq_some_iff {members : List (String × Json)}
    (values : ∀ member ∈ members, ∀ key entry,
      entryOfJson key member.2 = .ok (some entry) ↔ member.2.Yields entry) {key : String}
    {entry : FilterEntry} :
    entryOfJson key (.object members) = .ok (some entry) ↔ (Json.object members).Yields entry := by
  rw [entryOfJson, Except.map_eq_ok_iff, Json.yields_object_iff]
  simp only [ofMembers_eq_ok_iff_of values, Option.some.injEq]

theorem entryOfJson_eq_some_iff {json : Json} {key : String} {entry : FilterEntry} :
    entryOfJson key json = .ok (some entry) ↔ json.Yields entry := by
  induction json using Json.nested_induction generalizing key entry with
  | null =>
    constructor
    · intro made
      exact nomatch Except.ok.inj made
    · rintro ⟨text⟩
      exact nomatch text
  | bool value | number value | string value =>
    constructor
    · intro made
      obtain rfl := Option.some.inj (Except.ok.inj made)
      exact .scalar rfl
    · rintro ⟨text⟩
      exact entryOfJson_of_scalar text key
  | array items => exact entryOfJson_array_eq_some_iff
  | object members ih =>
    exact entryOfJson_object_eq_some_iff fun member found key entry => ih member found

theorem ofMembers_eq_ok_iff {members : List (String × Json)} {filters : FilterMap} :
    ofMembers members = .ok filters ↔ (Json.object members).Yields (.nested filters) := by
  rw [ofMembers_eq_ok_iff_of fun _ _ _ _ => entryOfJson_eq_some_iff, Json.yields_object_iff]
  simp only [FilterEntry.nested.injEq, exists_eq_right]

/-! ### What the reader refuses -/

def failure? {α : Type} : Except FilterError α → Option FilterError
  | .error e => some e
  | .ok _ => none

theorem failure?_eq_none_iff {α : Type} {result : Except FilterError α} :
    failure? result = none ↔ ∃ value, result = .ok value := by
  cases result <;> simp [failure?]

/-- The complaint about the first list that holds anything but scalars. -/
def complaint? (lists : List (String × List Json)) : Option FilterError :=
  (lists.find? offends).map fun list => .malformedFilter (listMessage list.1)

theorem complaint?_append (lists others : List (String × List Json)) :
    complaint? (lists ++ others) = (complaint? lists).or (complaint? others) := by
  rw [complaint?, List.find?_append]
  cases found : lists.find? offends <;> simp [complaint?, found]

theorem failure?_map {α β : Type} (result : Except FilterError α) (f : α → β) :
    failure? (result.map f) = failure? result := by
  cases result <;> rfl

theorem failure?_ofMembers_cons (key : String) (value : Json) (rest : List (String × Json)) :
    failure? (ofMembers ((key, value) :: rest)) =
      (failure? (entryOfJson key value)).or (failure? (ofMembers rest)) := by
  rw [ofMembers]
  cases entryOfJson key value with
  | error e => rfl
  | ok entry? => cases ofMembers rest <;> cases entry? <;> rfl

theorem failure?_listText (key : String) (items : List Json) :
    failure? (listText key items) = complaint? [(key, items)] := by
  cases offending : offends (key, items) with
  | true => simp [listText_of_offends offending, failure?, complaint?, offending]
  | false =>
    have scalars := scalars_of_not_offends offending
    simp [listText_eq_listed scalars, failure?, complaint?, offending]

theorem failure?_entryOfJson (json : Json) (key : String) :
    failure? (entryOfJson key json) = complaint? (listsOf key json) := by
  induction json using Json.nested_induction generalizing key with
  | null | bool | number | string => rw [entryOfJson, listsOf]; rfl
  | array items => rw [entryOfJson, listsOf, failure?_map, failure?_listText]
  | object members ih =>
    rw [entryOfJson, listsOf, failure?_map]
    induction members with
    | nil => rw [ofMembers, lists]; rfl
    | cons member rest ihRest =>
      obtain ⟨k, value⟩ := member
      obtain ⟨first, others⟩ := List.forall_mem_cons.mp ih
      rw [failure?_ofMembers_cons, lists, complaint?_append, first, ihRest others]

theorem failure?_ofMembers (members : List (String × Json)) :
    failure? (ofMembers members) = complaint? (lists members) := by
  have whole := failure?_entryOfJson (.object members) ""
  rwa [entryOfJson, listsOf, failure?_map] at whole

theorem complaint?_eq_some_iff {lists : List (String × List Json)} {error : FilterError} :
    complaint? lists = some error ↔ ∃ key items, lists.find? offends = some (key, items) ∧
      error = .malformedFilter (listMessage key) := by
  constructor
  · intro complains
    obtain ⟨⟨key, items⟩, found, rfl⟩ := Option.map_eq_some_iff.mp complains
    exact ⟨key, items, found, rfl⟩
  · rintro ⟨key, items, found, rfl⟩
    exact Option.map_eq_some_iff.mpr ⟨(key, items), found, rfl⟩

theorem isFilter_iff {members : List (String × Json)} :
    (Json.object members).IsFilter ↔ complaint? (lists members) = none := by
  have sound : complaint? (lists members) = none ↔
      ∀ key items, (key, items) ∈ lists members → ∀ item ∈ items, item.isScalar = true := by
    simp [complaint?, offends]
  rw [sound]
  constructor
  · rintro ⟨own, same, scalars⟩ key items listed
    obtain rfl := Json.object.inj same
    obtain ⟨object, inside, found⟩ := Json.mem_lists_iff.mp listed
    exact scalars object inside key items found
  · intro scalars
    refine ⟨members, rfl, fun object inside key items found => ?_⟩
    exact scalars key items (Json.mem_lists_iff.mpr ⟨object, inside, found⟩)

/-! ### Whole documents -/

theorem ofJson_of_object {json : Json} {members : List (String × Json)}
    (object : json.normalize = .object members) : ofJson json = ofMembers members := by
  rw [ofJson, object]

theorem ofJson_of_not_object {json : Json} (other : ∀ members, json.normalize ≠ .object members) :
    ofJson json = .error (.malformedFilter "filter must be a JSON object") := by
  unfold ofJson
  split
  · rename_i members object
    exact absurd object (other members)
  · rfl

theorem ofJson_eq_error_iff {json : Json} {members : List (String × Json)}
    (object : json.normalize = .object members) {error : FilterError} :
    ofJson json = .error error ↔ complaint? (lists members) = some error := by
  rw [ofJson_of_object object, ← failure?_ofMembers]
  cases ofMembers members <;> simp [failure?]

theorem ofJson_eq_ok_iff {json : Json} {filters : FilterMap} :
    ofJson json = .ok filters ↔ json.normalize.Yields (.nested filters) := by
  by_cases object : ∃ members, json.normalize = .object members
  · obtain ⟨members, object⟩ := object
    rw [ofJson_of_object object, object, ofMembers_eq_ok_iff]
  · have other : ∀ members, json.normalize ≠ .object members :=
      fun members same => object ⟨members, same⟩
    rw [ofJson_of_not_object other]
    constructor
    · nofun
    · intro yields
      generalize json.normalize = value at yields other
      cases yields with
      | nested => exact absurd rfl (other _)

theorem exists_ofJson_iff {json : Json} :
    (∃ filters, ofJson json = .ok filters) ↔ json.normalize.IsFilter := by
  by_cases object : ∃ members, json.normalize = .object members
  · obtain ⟨members, object⟩ := object
    rw [ofJson_of_object object, object, isFilter_iff, ← failure?_ofMembers,
      failure?_eq_none_iff]
  · constructor
    · rintro ⟨filters, read⟩
      rw [ofJson_of_not_object fun members same => object ⟨members, same⟩] at read
      exact nomatch read
    · rintro ⟨members, same, -⟩
      exact absurd ⟨members, same⟩ object

theorem exists_ofJsonText_iff {text : String} :
    (∃ filters, ofJsonText text = .ok filters) ↔
      ∃ json, Json.readExpanded text.toList = .ok json ∧ json.normalize.IsFilter := by
  simp only [← exists_ofJson_iff, ofJsonText]
  cases Json.readExpanded text.toList <;> simp

/-- The lenient reader takes exactly the documents that are filters, each for the map that it
yields, and refuses any other object for its first list that holds more than scalars. -/
theorem lenient_grammar :
    (∀ text, (∃ filters, ofJsonText text = .ok filters) ↔
      ∃ json, Json.readExpanded text.toList = .ok json ∧ json.normalize.IsFilter) ∧
    (∀ key value, entryOfJson key value = .ok none ↔ value = .null) ∧
    ∀ json : Json,
      let value := json.normalize
      value.Distinct ∧ (json.Distinct → value = json) ∧
      ((∃ filters, ofJson json = .ok filters) ↔ value.IsFilter) ∧
      (∀ filters, ofJson json = .ok filters ↔ value.Yields (.nested filters)) ∧
      ((∀ members, value ≠ .object members) →
        ofJson json = .error (.malformedFilter "filter must be a JSON object")) ∧
      ∀ members, value = .object members →
        (∀ error, ofJson json = .error error ↔
          ∃ key items, (lists members).find? offends = some (key, items) ∧
            error = .malformedFilter (listMessage key)) ∧
        (∀ key items, (key, items) ∈ lists members ↔
          ∃ object, Json.Inside object members ∧ (key, .array items) ∈ object) ∧
        ∀ (other : Json) (members' : List (String × Json)), other.normalize = .object members' →
          lists members' = lists members →
            ∀ error, ofJson other = .error error ↔ ofJson json = .error error := by
  refine ⟨fun text => exists_ofJsonText_iff, fun key value => entryOfJson_eq_none_iff,
    fun json => ?_⟩
  refine ⟨Json.distinct_normalize json, Json.normalize_of_distinct, exists_ofJson_iff,
    fun filters => ofJson_eq_ok_iff, ofJson_of_not_object, fun members object => ?_⟩
  refine ⟨fun error => ?_, fun key items => Json.mem_lists_iff,
    fun other members' object' same error => ?_⟩
  · rw [ofJson_eq_error_iff object, complaint?_eq_some_iff]
  · rw [ofJson_eq_error_iff object', ofJson_eq_error_iff object, same]

/-- A list inside of a list offends, and comes before a later list with a null. -/
theorem lenient_grammar_offending :
    let good := [("a", Json.null), ("b", .object [("c", .array [.number (.int 1), .string "x"]),
      ("d", .object [])])]
    ofJson (.object good) = .ok (nested "b" (text "c" "1,x" (nested "d" empty empty)) empty) ∧
      ofJson (.object (good ++ [("e", .array [.array []]), ("f", .array [.null])])) =
        .error (.malformedFilter "filter 'e' must be a list of scalar values") := by
  intro good
  obtain ⟨-, -, taken⟩ := lenient_grammar
  constructor
  · obtain ⟨-, -, -, yields, -⟩ := taken (.object good)
    refine (yields _).mpr (.nested rfl (.cons (.nested rfl ?_) .nil))
    exact .cons (.list (by decide)) (.cons (.nested rfl .nil) .nil)
  · obtain ⟨-, -, -, -, -, refused⟩ :=
      taken (.object (good ++ [("e", .array [.array []]), ("f", .array [.null])]))
    obtain ⟨complains, -⟩ := refused _ rfl
    exact (complains _).mpr ⟨"e", [.array []], rfl, rfl⟩

end FilterMap

end QueryFilter
