import QueryFilter.Proofs.Binding
import QueryFilter.Proofs.ScalarText
import QueryFilter.Proofs.Decoding
import QueryFilter.Proofs.Settling

/-!
# Lists of a JSON document

A list of scalars is stored as one text (`get?_of_ofJson`), and a list operator takes that text
apart again into the parts of the items, in their order (`parts_listed`). A comma inside an item
cuts it like the comma between two items; an item without one gives one value.
-/

namespace QueryFilter

/-- Whether the document is a text, a number or a boolean. -/
def Json.isScalar : Json → Bool
  | bool _ | number _ | string _ => true
  | null | array _ | object _ => false

theorem Json.normalize_of_isScalar {value : Json} (scalar : value.isScalar = true) :
    value.normalize = value := by
  cases value with
  | bool | number | string => rfl
  | null | array | object => exact nomatch scalar

namespace FilterMap

open FilterValue (parts)

def itemText (item : Json) : String := (scalarText? item).getD ""

/-- The text of a list of scalars. -/
def listed (items : List Json) : String := ",".intercalate (items.map itemText)

/-- The parts that an item gives. -/
def itemParts (item : Json) : List (List Char) := parts (itemText item).toList

/-! ### The text that is stored -/

section
variable {items : List Json} (scalars : ∀ item ∈ items, item.isScalar = true)

include scalars

theorem mapM_scalarText? : items.mapM scalarText? = some (items.map itemText) := by
  induction items with
  | nil => rfl
  | cons item rest ih =>
    obtain ⟨first, others⟩ := List.forall_mem_cons.mp scalars
    have text : scalarText? item = some (itemText item) := by
      cases item with
      | bool | number | string => rfl
      | null | array | object => exact nomatch first
    rw [List.mapM_cons, text, ih others]
    rfl

theorem listText_eq_listed (key : String) : listText key items = .ok (listed items) := by
  rw [listText, mapM_scalarText? scalars, listed]

theorem normalizeItems_of_scalars : Json.normalizeItems items = items := by
  have same : ∀ item ∈ items, item.normalize = item := fun item found =>
    Json.normalize_of_isScalar (scalars item found)
  rw [Json.normalizeItems_eq_map, List.map_congr_left same, List.map_id']

theorem entryOfJson_array (key : String) :
    entryOfJson key (Json.array items).normalize = .ok (some (.text (listed items))) := by
  rw [Json.normalize, normalizeItems_of_scalars scalars, entryOfJson, listText_eq_listed scalars]
  rfl

end

theorem lookup_normalizeMembers (members : List (String × Json)) (key : String) :
    (Json.normalizeMembers members).reverse.lookup key =
      (members.reverse.lookup key).map Json.normalize := by
  rw [Json.normalizeMembers_eq_map, ← List.map_reverse]
  induction members.reverse with
  | nil => rfl
  | cons member rest ih =>
    obtain ⟨k, value⟩ := member
    rw [List.map_cons, Dict.lookup_cons, Dict.lookup_cons, ih]
    split <;> rfl

theorem get?_of_ofMembers {members : List (String × Json)} {filters : FilterMap} {key : String}
    {value : Json} {entry : FilterEntry} (read : ofMembers members = .ok filters)
    (first : members.lookup key = some value) (makes : entryOfJson key value = .ok (some entry)) :
    filters.get? key = some entry := by
  induction members generalizing filters with
  | nil => exact nomatch first
  | cons member rest ih =>
    obtain ⟨k, other⟩ := member
    rw [ofMembers] at read
    obtain ⟨made, here, read⟩ := Except.bind_eq_ok_iff.mp read
    obtain ⟨more, others, read⟩ := Except.bind_eq_ok_iff.mp read
    rw [Dict.lookup_cons] at first
    split at first
    · rename_i same
      obtain rfl := Option.some.inj first
      obtain rfl := Except.ok.inj (makes.symm.trans (same ▸ here))
      obtain rfl := Except.ok.inj read
      rw [get?, entries_cons, Dict.lookup_cons, if_pos same]
    · rename_i different
      have found := ih others first
      cases made with
      | none =>
        obtain rfl := Except.ok.inj read
        exact found
      | some made =>
        obtain rfl := Except.ok.inj read
        rw [get?, entries_cons, Dict.lookup_cons, if_neg different]
        exact found

theorem ofJson_array {items : List Json} (scalars : ∀ item ∈ items, item.isScalar = true)
    (key : String) :
    ofJson (.object [(key, .array items)]) = .ok (text key (listed items) empty) := by
  have makes := entryOfJson_array scalars key
  rw [ofJson, Json.normalize]
  show ofMembers [(key, (Json.array items).normalize)] = _
  rw [ofMembers, makes]
  rfl

theorem get?_of_ofJson {items : List Json} (scalars : ∀ item ∈ items, item.isScalar = true)
    {members : List (String × Json)} {filters : FilterMap} {key : String}
    (last : members.reverse.lookup key = some (.array items))
    (read : ofJson (.object members) = .ok filters) :
    filters.get? key = some (.text (listed items)) := by
  rw [ofJson, Json.normalize] at read
  have first : (Json.settle (Json.normalizeMembers members)).lookup key =
      some (Json.array items).normalize := by
    rw [Json.lookup_settle, lookup_normalizeMembers, last, Option.map_some]
  exact get?_of_ofMembers read first (entryOfJson_array scalars key)

/-! ### The parts of the text -/

theorem toList_listed (items : List Json) :
    (listed items).toList = [','].intercalate (items.map fun item => (itemText item).toList) := by
  simp [listed, Function.comp_def]

theorem parts_listed {items : List Json} (nonempty : items ≠ []) :
    parts (listed items).toList = items.flatMap itemParts := by
  have texts : items.map (fun item => (itemText item).toList) ≠ [] := by simpa using nonempty
  rw [toList_listed, parts, Text.pieces_intercalate_eq_flatMap texts, List.flatMap_map,
    List.map_flatMap]
  rfl

theorem length_itemParts (items : List Json) :
    (items.flatMap itemParts).length =
      items.length + (items.flatMap fun item => (itemText item).toList).count ',' := by
  induction items with
  | nil => rfl
  | cons item rest ih =>
    have first : (itemParts item).length = (itemText item).toList.count ',' + 1 :=
      FilterValue.length_parts _
    rw [List.flatMap_cons, List.length_append, first, ih, List.length_cons, List.flatMap_cons,
      List.count_append]
    omega

theorem itemParts_of_not_mem {items : List Json}
    (single : ∀ item ∈ items, ',' ∉ (itemText item).toList) :
    items.flatMap itemParts = items.map fun item => Text.trim (itemText item).toList := by
  rw [List.map_eq_flatMap]
  exact List.flatMap_congr fun item member => FilterValue.parts_of_not_mem (single item member)

end FilterMap

/-! ### Decoding for a list operator -/

section
variable {op : Operator} (lists : op = .within ∨ op = .notWithin)

include lists

theorem FilterValue.ofScalars_of_lists (text : String) (values : List Scalar) :
    ofScalars op text values = .ok (list values) := by
  rcases lists with rfl | rfl
  · unfold ofScalars
    split <;> rfl
  · unfold ofScalars
    split <;> rfl

theorem FilterValue.decode_blank_of_lists {raw : String} (blank : Text.trim raw.toList = [])
    (fieldType : FieldType) : decode raw fieldType op = .error (.shape op "") := by
  rcases lists with rfl | rfl
  · simp [decode, blank, ofEmpty, Operator.arity]
  · simp [decode, blank, ofEmpty, Operator.arity]

theorem FilterValue.decode_of_lists {raw : String} (nonblank : Text.trim raw.toList ≠ [])
    (fieldType : FieldType) :
    decode raw fieldType op = ((parts raw.toList).mapM (coerce fieldType)).map list := by
  have reads : op.readsValues = true := by rcases lists with rfl | rfl <;> rfl
  have several : parts raw.toList ≠ [[]] := mt parts_eq_blank_iff.mp nonblank
  rw [decode_eq_ofParts reads, ofParts, if_neg several]
  cases (parts raw.toList).mapM (coerce fieldType) with
  | error error => rfl
  | ok values => exact ofScalars_of_lists lists (Text.trimmed raw) values

theorem parameters_of_lists {values : List Scalar} (nonempty : values ≠ []) :
    ∃ comparison, Instruction.of? op (.list values) = some (.restrict comparison) ∧
      ∀ column, (Sql.Condition.ofPredicate ⟨column, comparison⟩).parameters =
        values.map Sql.Parameter.ofScalar := by
  rcases lists with rfl | rfl
  · refine ⟨.within values, rfl, fun column => ?_⟩
    exact Sql.Condition.parameters_ofPredicate ⟨by simpa using nonempty, nofun⟩
  · refine ⟨.notWithin values, rfl, fun column => ?_⟩
    exact Sql.Condition.parameters_ofPredicate ⟨nofun, by simpa using nonempty⟩

end

/-! ### Lists of integers -/

theorem Decimal.render_ne_nil (n : Int) : Decimal.render n ≠ [] := by
  intro empty
  have read := Decimal.integer?_render n
  rw [empty] at read
  exact nomatch read

theorem FilterMap.itemParts_integer (n : Int) :
    itemParts (.number (.int n)) = [Decimal.render n] := by
  have part : IsPart (Decimal.render n) := .of_solid (Decimal.solid_render n)
  have text : (itemText (.number (.int n))).toList = Decimal.render n := String.toList_ofList
  rw [itemParts, text, FilterValue.parts_of_not_mem part.comma, part.trimmed]

theorem FilterMap.parts_listed_integers {integers : List Int} (nonempty : integers ≠ []) :
    FilterValue.parts (listed (integers.map fun n => .number (.int n))).toList =
      integers.map Decimal.render := by
  have items : integers.map (fun n => Json.number (.int n)) ≠ [] := by simpa using nonempty
  rw [parts_listed items, List.flatMap_map]
  simp only [itemParts_integer]
  exact List.map_eq_flatMap.symm

theorem FilterValue.reads_integers {integers : List Int}
    (range : ∀ n ∈ integers, Scalar.leastInt ≤ n ∧ n ≤ Scalar.greatestUnsigned) :
    Reads .bigInteger (integers.map Decimal.render) (integers.map Scalar.ofInteger) := by
  induction integers with
  | nil => exact .nil
  | cons n rest ih =>
    obtain ⟨first, others⟩ := List.forall_mem_cons.mp range
    exact .cons (Scalar.bigInteger?_render first) (ih others)

/-! ### Lists of scalars -/

namespace FilterMap

open FilterValue (Reads coerce decode unread?)

section
variable {op : Operator} (lists : op = .within ∨ op = .notWithin) {items : List Json}
  (nonblank : Text.trim (listed items).toList ≠ []) {fieldType : FieldType}

include lists nonblank

theorem decode_listed :
    decode (listed items) fieldType op =
      ((items.flatMap itemParts).mapM (coerce fieldType)).map .list := by
  have nonempty : items ≠ [] := by
    rintro rfl
    exact nonblank rfl
  rw [FilterValue.decode_of_lists lists nonblank, parts_listed nonempty]

theorem decode_listed_eq_ok_iff {value : FilterValue} :
    decode (listed items) fieldType op = .ok value ↔
      ∃ values, Reads fieldType (items.flatMap itemParts) values ∧ value = .list values := by
  rw [decode_listed lists nonblank]
  simp only [← FilterValue.mapM_coerce_eq_ok_iff]
  cases (items.flatMap itemParts).mapM (coerce fieldType) <;> simp [Except.map, eq_comm]

theorem decode_listed_eq_error_iff {error : ValueError} :
    decode (listed items) fieldType op = .error error ↔
      ∃ part, unread? fieldType (items.flatMap itemParts) = some part ∧
        error = .type fieldType (String.ofList part) := by
  rw [decode_listed lists nonblank, ← FilterValue.mapM_coerce_eq_error_iff]
  cases (items.flatMap itemParts).mapM (coerce fieldType) <;> simp [Except.map]

end

theorem decode_listed_integers {op : Operator} (lists : op = .within ∨ op = .notWithin)
    {integers : List Int} (nonempty : integers ≠ [])
    (range : ∀ n ∈ integers, Scalar.leastInt ≤ n ∧ n ≤ Scalar.greatestUnsigned) :
    decode (listed (integers.map fun n => .number (.int n))) .bigInteger op =
      .ok (.list (integers.map Scalar.ofInteger)) := by
  have parts := parts_listed_integers nonempty
  have nonblank :
      Text.trim (listed (integers.map fun n => Json.number (.int n))).toList ≠ [] := by
    intro blank
    rw [FilterValue.parts_eq_blank_iff.mpr blank] at parts
    obtain ⟨n, -, empty⟩ := List.map_eq_singleton_iff.mp parts.symm
    exact Decimal.render_ne_nil n empty
  rw [FilterValue.decode_of_lists lists nonblank, parts,
    FilterValue.mapM_coerce_eq_ok_iff.mpr (FilterValue.reads_integers range)]
  rfl

/-- A list of scalars is stored as one text, and a list operator reads and binds its parts. -/
theorem listed_items_bound {items : List Json} (scalars : ∀ item ∈ items, item.isScalar = true)
    {op : Operator} (lists : op = .within ∨ op = .notWithin) (fieldType : FieldType) :
    let stored := listed items
    let pieces := items.flatMap itemParts
    (∀ key, ofJson (.object [(key, .array items)]) = .ok (text key stored empty)) ∧
    (∀ members filters key, members.reverse.lookup key = some (.array items) →
      ofJson (.object members) = .ok filters → filters.get? key = some (.text stored)) ∧
    (Text.trim stored.toList = [] → decode stored fieldType op = .error (.shape op "")) ∧
    (Text.trim stored.toList ≠ [] →
      (∀ value, decode stored fieldType op = .ok value ↔
        ∃ values, Reads fieldType pieces values ∧ value = .list values) ∧
      ∀ error, decode stored fieldType op = .error error ↔
        ∃ part, unread? fieldType pieces = some part ∧
          error = .type fieldType (String.ofList part)) ∧
    (∀ values, decode stored fieldType op = .ok (.list values) →
      values.length =
        items.length + (items.flatMap fun item => (itemText item).toList).count ',' ∧
      ((∀ item ∈ items, ',' ∉ (itemText item).toList) →
        Reads fieldType (items.map fun item => Text.trim (itemText item).toList) values) ∧
      ∃ comparison, Instruction.of? op (.list values) = some (.restrict comparison) ∧
        ∀ column, (Sql.Condition.ofPredicate ⟨column, comparison⟩).parameters =
          values.map Sql.Parameter.ofScalar) ∧
    ∀ integers, items = integers.map (fun n => .number (.int n)) → integers ≠ [] →
      (∀ n ∈ integers, Scalar.leastInt ≤ n ∧ n ≤ Scalar.greatestUnsigned) →
      decode stored .bigInteger op = .ok (.list (integers.map Scalar.ofInteger)) := by
  intro stored pieces
  refine ⟨ofJson_array scalars, fun members filters key => get?_of_ofJson scalars,
    fun blank => FilterValue.decode_blank_of_lists lists blank fieldType,
    fun nonblank => ⟨fun value => decode_listed_eq_ok_iff lists nonblank,
      fun error => decode_listed_eq_error_iff lists nonblank⟩, fun values read => ?_, ?_⟩
  · have nonblank : Text.trim stored.toList ≠ [] := by
      intro blank
      rw [FilterValue.decode_blank_of_lists lists blank] at read
      exact nomatch read
    obtain ⟨_, reads, same⟩ := (decode_listed_eq_ok_iff lists nonblank).mp read
    obtain rfl := FilterValue.list.inj same
    have count : values.length =
        items.length + (items.flatMap fun item => (itemText item).toList).count ',' := by
      rw [← reads.length_eq, length_itemParts]
    have filled : values ≠ [] := by
      rintro rfl
      obtain rfl := List.eq_nil_of_length_eq_zero (by simp at count; omega : items.length = 0)
      exact nonblank rfl
    refine ⟨count, fun single => ?_, parameters_of_lists lists filled⟩
    rw [← itemParts_of_not_mem single]
    exact reads
  · rintro integers rfl nonempty range
    exact decode_listed_integers lists nonempty range

/-- A comma inside an item makes two values of it, and an empty item is no integer. -/
theorem listed_items_bound_numbers :
    (∀ item ∈ [Json.number (.int 1), .string "2, 3"], item.isScalar = true) ∧
    ofJson (.object [("id|in", .array [.number (.int 1), .string "2, 3"])]) =
      .ok (text "id|in" "1,2, 3" empty) ∧
    decode "1,2, 3" .integer .within = .ok (.list [.int 1, .int 2, .int 3]) ∧
    decode "true,,x" .integer .notWithin = .error (.type .integer "true") ∧
    decode "-9223372036854775808,18446744073709551615" .bigInteger .within =
      .ok (.list [.int (-9223372036854775808), .bigUnsigned 18446744073709551615]) := by
  have mixed : ∀ item ∈ [Json.number (.int 1), .string "2, 3"], item.isScalar = true := by decide
  have odd : ∀ item ∈ [Json.bool true, .string ",x"], item.isScalar = true := by decide
  have large : ∀ item ∈ [(-9223372036854775808 : Int), 18446744073709551615].map
      (fun n => Json.number (.int n)), item.isScalar = true := by decide
  obtain ⟨stored, -, -, decoded, -⟩ := listed_items_bound mixed (.inl rfl) .integer
  obtain ⟨-, -, -, refused, -⟩ := listed_items_bound odd (.inr rfl) .integer
  obtain ⟨-, -, -, -, -, integers⟩ := listed_items_bound large (.inl rfl) .bigInteger
  refine ⟨mixed, stored "id|in", ?_, ?_, ?_⟩
  · refine ((decoded (by decide)).1 _).mpr ⟨_, ?_, rfl⟩
    exact .cons (by decide) (.cons (by decide) (.cons (by decide) .nil))
  · exact ((refused (by decide)).2 _).mpr ⟨"true".toList, by decide, rfl⟩
  · exact integers _ rfl (by decide) (by decide)

end FilterMap

end QueryFilter
