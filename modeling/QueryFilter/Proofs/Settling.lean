import Mathlib.Data.List.Forall2
import Mathlib.Data.List.Induction
import QueryFilter.FilterMap.Json
import QueryFilter.Proofs.Reordering

/-!
# Repeated members

Setting members one after another leaves each key in its first place (`keys_settle`) with its last
value (`lookup_settle`). `Json.Denotes` says so of a whole document and the entry it stands for.
The entry that the strict reader makes is denoted by its document (`denotes_of_strictEntry?`), and
the lenient conversion makes the same one (`ofJson_of_strictEntries?`).
-/

namespace QueryFilter

namespace Json

variable {α β : Type}

/-! ### Members set one after another -/

theorem settle_concat (members : List (String × α)) (key : String) (value : α) :
    settle (members ++ [(key, value)]) = setMember key value (settle members) := by
  simp [settle]

theorem keys_setMember (key : String) (value : α) (members : List (String × α)) :
    (setMember key value members).map Prod.fst =
      if key ∈ members.map Prod.fst then members.map Prod.fst
      else members.map Prod.fst ++ [key] := by
  induction members with
  | nil => rfl
  | cons member rest ih =>
    obtain ⟨k, v⟩ := member
    rw [setMember]
    by_cases same : k = key
    · simp [same]
    · have other : key ≠ k := fun h => same h.symm
      simp only [if_neg same, List.map_cons, ih, List.mem_cons, other, false_or]
      split
      · rfl
      · rfl

theorem lookup_setMember (key : String) (value : α) (members : List (String × α))
    (other : String) :
    (setMember key value members).lookup other =
      if other = key then some value else members.lookup other := by
  induction members with
  | nil => exact Dict.lookup_cons key other value []
  | cons member rest ih =>
    obtain ⟨k, v⟩ := member
    rw [setMember]
    by_cases same : k = key
    · subst same
      rw [if_pos rfl, Dict.lookup_cons, Dict.lookup_cons]
      split <;> rfl
    · rw [if_neg same, Dict.lookup_cons, Dict.lookup_cons, ih]
      by_cases here : other = k
      · subst here
        rw [if_pos rfl, if_pos rfl, if_neg same]
      · rw [if_neg here, if_neg here]

theorem keys_settle (members : List (String × α)) :
    (settle members).map Prod.fst = (members.map Prod.fst).eraseDups := by
  induction members using List.reverseRecOn with
  | nil => rfl
  | append_singleton members member ih =>
    obtain ⟨key, value⟩ := member
    rw [settle_concat, keys_setMember, ih, List.map_append, List.eraseDups_append]
    by_cases present : key ∈ members.map Prod.fst
    · have again : [key].removeAll (members.map Prod.fst) = [] := by
        simp [List.removeAll, present]
      rw [if_pos (List.mem_eraseDups.mpr present), List.map_singleton, again, List.eraseDups_nil,
        List.append_nil]
    · have anew : [key].removeAll (members.map Prod.fst) = [key] := by
        simp [List.removeAll, present]
      rw [if_neg fun found => present (List.mem_eraseDups.mp found), List.map_singleton, anew]
      rfl

theorem lookup_settle (members : List (String × α)) (key : String) :
    (settle members).lookup key = members.reverse.lookup key := by
  induction members using List.reverseRecOn with
  | nil => rfl
  | append_singleton members member ih =>
    obtain ⟨k, value⟩ := member
    rw [settle_concat, lookup_setMember, ih, List.reverse_concat, Dict.lookup_cons]

theorem setMember_of_not_mem {key : String} (value : α) {members : List (String × α)}
    (new : key ∉ members.map Prod.fst) :
    setMember key value members = members ++ [(key, value)] := by
  induction members with
  | nil => rfl
  | cons member rest ih =>
    obtain ⟨k, v⟩ := member
    rw [List.map_cons, List.mem_cons, not_or] at new
    rw [setMember, if_neg (Ne.symm new.1), ih new.2, List.cons_append]

theorem eq_or_mem_of_mem_setMember {key : String} {value : α} {members : List (String × α)}
    {member : String × α} (found : member ∈ setMember key value members) :
    member = (key, value) ∨ member ∈ members := by
  induction members with
  | nil => exact .inl (List.mem_singleton.mp found)
  | cons head rest ih =>
    obtain ⟨k, v⟩ := head
    rw [setMember] at found
    split at found
    · exact (List.mem_cons.mp found).imp_right (List.mem_cons_of_mem _)
    · rcases List.mem_cons.mp found with rfl | found
      · exact .inr List.mem_cons_self
      · exact (ih found).imp_right (List.mem_cons_of_mem _)

theorem mem_of_mem_settle {members : List (String × α)} {member : String × α}
    (found : member ∈ settle members) : member ∈ members := by
  induction members using List.reverseRecOn with
  | nil => exact found
  | append_singleton members last ih =>
    obtain ⟨key, value⟩ := last
    rw [settle_concat] at found
    rcases eq_or_mem_of_mem_setMember found with rfl | before
    · exact List.mem_append_right _ (List.mem_singleton_self _)
    · exact List.mem_append_left _ (ih before)

theorem nodup_settle (members : List (String × α)) : ((settle members).map Prod.fst).Nodup := by
  induction members using List.reverseRecOn with
  | nil => exact List.nodup_nil
  | append_singleton members member ih =>
    obtain ⟨key, value⟩ := member
    rw [settle_concat, keys_setMember]
    split
    · exact ih
    · rename_i new
      refine List.nodup_append.mpr ⟨ih, List.pairwise_singleton _ key, ?_⟩
      rintro other found last member rfl
      exact new (List.mem_singleton.mp member ▸ found)

theorem settle_of_nodup {members : List (String × α)} (keys : (members.map Prod.fst).Nodup) :
    settle members = members := by
  induction members using List.reverseRecOn with
  | nil => rfl
  | append_singleton members member ih =>
    obtain ⟨key, value⟩ := member
    rw [List.map_append, List.nodup_append] at keys
    obtain ⟨before, -, apart⟩ := keys
    have new : key ∉ members.map Prod.fst := fun found =>
      apart key found key (List.mem_singleton_self key) rfl
    rw [settle_concat, ih before, setMember_of_not_mem value new]

theorem normalizeItems_eq_map (items : List Json) :
    normalizeItems items = items.map normalize := by
  induction items with
  | nil => rfl
  | cons item rest ih => rw [normalizeItems, ih, List.map_cons]

theorem normalizeMembers_eq_map (members : List (String × Json)) :
    normalizeMembers members = members.map fun member => (member.1, member.2.normalize) := by
  induction members with
  | nil => rfl
  | cons member rest ih => rw [normalizeMembers, ih, List.map_cons]

/-- Whether two members have the same key and values that are alike. -/
def Alike (alike : α → β → Prop) (member : String × α) (other : String × β) : Prop :=
  member.1 = other.1 ∧ alike member.2 other.2

theorem forall₂_setMember {alike : α → β → Prop} {members : List (String × α)}
    {others : List (String × β)} {key : String} {value : α} {other : β}
    (all : List.Forall₂ (Alike alike) members others) (values : alike value other) :
    List.Forall₂ (Alike alike) (setMember key value members) (setMember key other others) := by
  induction all with
  | nil => exact .cons ⟨rfl, values⟩ .nil
  | @cons member other' rest rest' here all ih =>
    obtain ⟨k, v⟩ := member
    obtain ⟨k', v'⟩ := other'
    obtain ⟨rfl, valuesHere⟩ := here
    rw [setMember, setMember]
    split
    · exact .cons ⟨rfl, values⟩ all
    · exact .cons ⟨rfl, valuesHere⟩ ih

theorem forall₂_settle {alike : α → β → Prop} {members : List (String × α)}
    {others : List (String × β)} (all : List.Forall₂ (Alike alike) members others) :
    List.Forall₂ (Alike alike) (settle members) (settle others) := by
  refine List.rel_foldl (P := List.Forall₂ (Alike alike))
    (fun settled settled' before member other here => ?_) .nil all
  obtain ⟨k, v⟩ := member
  obtain ⟨k', v'⟩ := other
  obtain ⟨rfl, values⟩ := here
  exact forall₂_setMember before values

theorem alike_of_lookup {alike : α → β → Prop} {members : List (String × α)}
    {others : List (String × β)} (all : List.Forall₂ (Alike alike) members others) {key : String}
    {value : α} {other : β} (found : members.lookup key = some value)
    (found' : others.lookup key = some other) : alike value other := by
  induction all with
  | nil => exact nomatch found
  | @cons member other' rest rest' here all ih =>
    obtain ⟨k, v⟩ := member
    obtain ⟨k', v'⟩ := other'
    obtain ⟨rfl, values⟩ := here
    rw [Dict.lookup_cons] at found found'
    by_cases here : key = k
    · rw [if_pos here] at found found'
      obtain rfl := Option.some.inj found
      obtain rfl := Option.some.inj found'
      exact values
    · rw [if_neg here] at found found'
      exact ih found found'

end Json

namespace FilterMap

/-! ### Entries inserted one after another -/

theorem entries_insert (filters : FilterMap) (key : String) (entry : FilterEntry) :
    (filters.insert key entry).entries = Json.setMember key entry filters.entries := by
  induction filters using cons_induction with
  | empty => exact entries_cons key entry empty
  | cons k e rest ih =>
    rw [insert_cons, entries_cons, Json.setMember]
    split
    · rw [entries_cons]
    · rw [entries_cons, ih]

theorem entries_insertAll (entries : List (String × FilterEntry)) :
    (empty.insertAll entries).entries = Json.settle entries := by
  induction entries using List.reverseRecOn with
  | nil => rfl
  | append_singleton entries entry ih =>
    rw [Json.settle_concat, ← ih, ← entries_insert]
    simp [insertAll]

/-! ### What a strict entry stands for -/

mutual

/-- Induction on a document that is an entry for the strict reader. -/
theorem strictEntry?_induction {motive : Json → FilterEntry → Prop}
    (text : ∀ raw, motive (.string raw) (.text raw))
    (nested : ∀ members entries, List.Forall₂ (Json.Alike motive) members entries →
      motive (.object members) (.nested (empty.insertAll entries))) :
    (json : Json) → {entry : FilterEntry} → strictEntry? json = some entry → motive json entry
  | .string value, entry, strict => by
    obtain rfl := Option.some.inj strict
    exact text value
  | .object members, entry, strict => by
    obtain ⟨entries, found, rfl⟩ := Option.map_eq_some_iff.mp strict
    exact nested members entries (strictEntries?_induction text nested members found)
  | .null, _, strict | .bool _, _, strict | .number _, _, strict | .array _, _, strict =>
    nomatch strict

theorem strictEntries?_induction {motive : Json → FilterEntry → Prop}
    (text : ∀ raw, motive (.string raw) (.text raw))
    (nested : ∀ members entries, List.Forall₂ (Json.Alike motive) members entries →
      motive (.object members) (.nested (empty.insertAll entries))) :
    (members : List (String × Json)) → {entries : List (String × FilterEntry)} →
      strictEntries? members = some entries → List.Forall₂ (Json.Alike motive) members entries
  | [], entries, strict => by
    obtain rfl := Option.some.inj strict
    exact .nil
  | (key, value) :: rest, entries, strict => by
    rw [strictEntries?] at strict
    split at strict
    · rename_i entry others found foundOthers
      obtain rfl := Option.some.inj strict
      exact .cons ⟨rfl, strictEntry?_induction text nested value found⟩
        (strictEntries?_induction text nested rest foundOthers)
    · exact nomatch strict

end

end FilterMap

/-- Whether an entry is what a document says: a text for a string, and for an object a map that has
each key once, in the place of its first occurrence, with what its last value stands for. -/
inductive Json.Denotes : Json → FilterEntry → Prop where
  | text (raw : String) : Denotes (.string raw) (.text raw)
  | nested {members : List (String × Json)} {filters : FilterMap}
      (keys : filters.keys = (members.map Prod.fst).eraseDups)
      (values : ∀ key value entry, members.reverse.lookup key = some value →
        filters.get? key = some entry → Denotes value entry) :
      Denotes (.object members) (.nested filters)

namespace FilterMap

theorem keys_of_alike {α β : Type} {alike : α → β → Prop} {members : List (String × α)}
    {others : List (String × β)} (all : List.Forall₂ (Json.Alike alike) members others) :
    members.map Prod.fst = others.map Prod.fst := by
  induction all with
  | nil => rfl
  | cons here _ ih => rw [List.map_cons, List.map_cons, here.1, ih]

theorem denotes_of_strictEntry? {json : Json} {entry : FilterEntry}
    (strict : strictEntry? json = some entry) : json.Denotes entry := by
  refine strictEntry?_induction .text (fun members entries all => .nested ?_ ?_) json strict
  · rw [keys, entries_insertAll, Json.keys_settle, keys_of_alike all]
  · intro key value entry found found'
    rw [get?, entries_insertAll, Json.lookup_settle] at found'
    exact Json.alike_of_lookup (List.rel_reverse all) found found'

/-- Whether the lenient reader makes the entry of the document, under every key. -/
def Converts (json : Json) (entry : FilterEntry) : Prop :=
  ∀ key, entryOfJson key json.normalize = .ok (some entry)

theorem ofMembers_of_alike {members : List (String × Json)} {entries : List (String × FilterEntry)}
    (all : List.Forall₂
      (Json.Alike fun json entry => ∀ key, entryOfJson key json = .ok (some entry))
      members entries) :
    ofMembers members = .ok (ofEntries entries) := by
  induction all with
  | nil => rfl
  | @cons member entry rest rest' here all ih =>
    obtain ⟨k, value⟩ := member
    obtain ⟨k', entry⟩ := entry
    obtain ⟨rfl, converts⟩ := here
    rw [ofMembers, converts, ih]
    rfl

theorem ofMembers_settle {members : List (String × Json)} {entries : List (String × FilterEntry)}
    (all : List.Forall₂ (Json.Alike Converts) members entries) :
    ofMembers (Json.settle (Json.normalizeMembers members)) = .ok (empty.insertAll entries) := by
  rw [Json.normalizeMembers_eq_map,
    ofMembers_of_alike (Json.forall₂_settle (List.forall₂_map_left_iff.mpr all)),
    ← entries_insertAll, ofEntries_entries]

theorem converts_nested (members : List (String × Json)) (entries : List (String × FilterEntry))
    (all : List.Forall₂ (Json.Alike Converts) members entries) :
    Converts (.object members) (.nested (empty.insertAll entries)) := by
  intro key
  rw [Json.normalize, entryOfJson, ofMembers_settle all]
  rfl

theorem ofJson_of_strictEntries? {members : List (String × Json)}
    {entries : List (String × FilterEntry)} (strict : strictEntries? members = some entries) :
    ofJson (.object members) = .ok (empty.insertAll entries) := by
  rw [ofJson, Json.normalize]
  exact ofMembers_settle
    (strictEntries?_induction (fun raw key => rfl) converts_nested members strict)

end FilterMap

end QueryFilter
