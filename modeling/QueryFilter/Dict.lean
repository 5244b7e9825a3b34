/-!
# Dictionaries

A `Dict` maps names to values and lists its entries in the order of the names. The order makes the
list canonical: two dictionaries that answer alike are equal (`Dict.ext`).
-/

namespace QueryFilter

theorem eq_of_not_lt {a b : String} (hab : ¬ a < b) (hba : ¬ b < a) : a = b :=
  String.le_antisymm (String.not_lt.1 hba) (String.not_lt.1 hab)

structure Dict (α : Type) where
  entries : List (String × α)
  sorted : entries.Pairwise fun a b => a.1 < b.1
  deriving DecidableEq

abbrev NameSet := Dict Unit

namespace Dict

variable {α : Type}

instance [Repr α] : Repr (Dict α) := ⟨fun d n => reprPrec d.entries n⟩

def empty : Dict α := ⟨[], .nil⟩

instance : Inhabited (Dict α) := ⟨empty⟩

def get? (d : Dict α) (key : String) : Option α := d.entries.lookup key

def contains (d : Dict α) (key : String) : Bool := (d.get? key).isSome

def keys (d : Dict α) : List String := d.entries.map Prod.fst

/-- Puts an entry in its place in an ordered list, instead of an entry with the same key. -/
def place (key : String) (value : α) : List (String × α) → List (String × α)
  | [] => [(key, value)]
  | (k, v) :: rest =>
    if key < k then (key, value) :: (k, v) :: rest
    else if k < key then (k, v) :: place key value rest
    else (key, value) :: rest

theorem mem_place {key : String} {value : α} {entries : List (String × α)} {e : String × α}
    (h : e ∈ place key value entries) : e = (key, value) ∨ e ∈ entries := by
  induction entries with
  | nil => simpa [place] using h
  | cons head rest ih =>
    obtain ⟨k, v⟩ := head
    unfold place at h
    split at h
    · simpa using h
    · split at h
      · rcases List.mem_cons.1 h with rfl | h
        · exact .inr List.mem_cons_self
        · exact (ih h).imp_right (List.mem_cons_of_mem _)
      · rcases List.mem_cons.1 h with rfl | h
        · exact .inl rfl
        · exact .inr (List.mem_cons_of_mem _ h)

theorem sorted_place {key : String} {value : α} {entries : List (String × α)}
    (h : entries.Pairwise fun a b => a.1 < b.1) :
    (place key value entries).Pairwise fun a b => a.1 < b.1 := by
  induction entries with
  | nil => simp [place]
  | cons head rest ih =>
    obtain ⟨k, v⟩ := head
    obtain ⟨hk, hrest⟩ := List.pairwise_cons.1 h
    unfold place
    split
    · rename_i hlt
      refine List.pairwise_cons.2 ⟨fun e he => ?_, h⟩
      rcases List.mem_cons.1 he with rfl | he
      · exact hlt
      · exact String.lt_trans hlt (hk e he)
    · split
      · rename_i hgt
        refine List.pairwise_cons.2 ⟨fun e he => ?_, ih hrest⟩
        rcases mem_place he with rfl | he
        · exact hgt
        · exact hk e he
      · rename_i hn hm
        exact List.pairwise_cons.2 ⟨eq_of_not_lt hm hn ▸ hk, hrest⟩

def insert (d : Dict α) (key : String) (value : α) : Dict α :=
  ⟨place key value d.entries, sorted_place d.sorted⟩

def erase (d : Dict α) (key : String) : Dict α :=
  ⟨d.entries.filter fun e => e.1 != key, d.sorted.filter _⟩

/-- Inserts the entries one after another, so that of equal keys the last one counts. -/
def insertAll (d : Dict α) (entries : List (String × α)) : Dict α :=
  entries.foldl (fun d e => d.insert e.1 e.2) d

def ofList (entries : List (String × α)) : Dict α := empty.insertAll entries

/-! ### What the operations do to a look-up -/

@[simp] theorem get?_empty (key : String) : (empty : Dict α).get? key = none := rfl

theorem lookup_cons (key other : String) (value : α) (rest : List (String × α)) :
    ((key, value) :: rest).lookup other =
      if other = key then some value else rest.lookup other := by
  rw [List.lookup_cons]
  by_cases h : other = key
  · rw [if_pos h, beq_iff_eq.2 h]
  · rw [if_neg h, beq_eq_false_iff_ne.2 h]

theorem lookup_place {key : String} {value : α} {entries : List (String × α)} (other : String) :
    (place key value entries).lookup other =
      if other = key then some value else entries.lookup other := by
  induction entries with
  | nil => simp [place, lookup_cons]
  | cons head rest ih =>
    obtain ⟨k, v⟩ := head
    unfold place
    split
    · rw [lookup_cons]
    · split
      · rename_i hgt
        rw [lookup_cons, lookup_cons, ih]
        by_cases ho : other = k
        · have : other ≠ key := fun e => String.lt_irrefl key (by rw [← e, ho] at hgt ⊢; exact hgt)
          rw [if_pos ho, if_pos ho, if_neg this]
        · rw [if_neg ho, if_neg ho]
      · rename_i hn hm
        obtain rfl := eq_of_not_lt hm hn
        rw [lookup_cons, lookup_cons]
        by_cases ho : other = k
        · rw [if_pos ho, if_pos ho]
        · rw [if_neg ho, if_neg ho, if_neg ho]

@[simp] theorem get?_insert (d : Dict α) (key : String) (value : α) (other : String) :
    (d.insert key value).get? other = if other = key then some value else d.get? other :=
  lookup_place other

theorem lookup_filter_ne {entries : List (String × α)} (key other : String) :
    (entries.filter fun e => e.1 != key).lookup other =
      if other = key then none else entries.lookup other := by
  induction entries with
  | nil => simp
  | cons head rest ih =>
    obtain ⟨k, v⟩ := head
    rw [lookup_cons]
    by_cases hk : k = key
    · subst hk
      rw [List.filter_cons_of_neg (by simp), ih]
      by_cases ho : other = k
      · rw [if_pos ho, if_pos ho]
      · rw [if_neg ho, if_neg ho, if_neg ho]
    · rw [List.filter_cons_of_pos (by simpa using hk), lookup_cons, ih]
      by_cases ho : other = k
      · rw [if_pos ho, if_pos ho, if_neg (ho ▸ hk)]
      · rw [if_neg ho, if_neg ho]

@[simp] theorem get?_erase (d : Dict α) (key other : String) :
    (d.erase key).get? other = if other = key then none else d.get? other :=
  lookup_filter_ne key other

/-! ### Entries under their own names -/

/-- Whether every value stands under the name it carries itself. -/
def Named (nameOf : α → String) (d : Dict α) : Prop :=
  ∀ key value, d.get? key = some value → nameOf value = key

theorem named_empty (nameOf : α → String) : (empty : Dict α).Named nameOf :=
  fun _ _ h => nomatch h

theorem Named.insert {nameOf : α → String} {d : Dict α} (h : d.Named nameOf) (value : α) :
    (d.insert (nameOf value) value).Named nameOf := by
  intro key other found
  rw [get?_insert] at found
  split at found
  · rename_i same
    obtain rfl := Option.some.inj found
    exact same.symm
  · exact h key other found

theorem Named.erase {nameOf : α → String} {d : Dict α} (h : d.Named nameOf) (name : String) :
    (d.erase name).Named nameOf := by
  intro key value found
  rw [get?_erase] at found
  split at found
  · exact nomatch found
  · exact h key value found

/-! ### Equality -/

theorem lookup_eq_none_of_forall_lt {key : String} {entries : List (String × α)}
    (h : ∀ e ∈ entries, key < e.1) : entries.lookup key = none := by
  induction entries with
  | nil => rfl
  | cons head rest ih =>
    obtain ⟨k, v⟩ := head
    have hlt : key < k := h _ List.mem_cons_self
    rw [lookup_cons, if_neg (fun he : key = k => String.lt_irrefl k (by rwa [he] at hlt))]
    exact ih fun e he => h e (List.mem_cons_of_mem _ he)

theorem not_lt_of_lookup_eq {k k' : String} {v v' : α} {xs ys : List (String × α)}
    (hk' : ∀ e ∈ ys, k' < e.1) (h : ((k, v) :: xs).lookup k = ((k', v') :: ys).lookup k) :
    ¬ k < k' := by
  intro hlt
  have hn : ((k', v') :: ys).lookup k = none := lookup_eq_none_of_forall_lt fun e he => by
    rcases List.mem_cons.1 he with rfl | he
    · exact hlt
    · exact String.lt_trans hlt (hk' e he)
  rw [hn, lookup_cons, if_pos rfl] at h
  exact nomatch h

theorem entries_eq_of_lookup_eq {xs ys : List (String × α)}
    (hx : xs.Pairwise fun a b => a.1 < b.1) (hy : ys.Pairwise fun a b => a.1 < b.1)
    (h : ∀ key, xs.lookup key = ys.lookup key) : xs = ys := by
  induction xs generalizing ys with
  | nil =>
    cases ys with
    | nil => rfl
    | cons head rest => exact absurd (h head.1) (by rw [lookup_cons]; simp)
  | cons x xs ih =>
    obtain ⟨k, v⟩ := x
    obtain ⟨hk, hxs⟩ := List.pairwise_cons.1 hx
    cases ys with
    | nil => exact absurd (h k) (by rw [lookup_cons]; simp)
    | cons y ys =>
      obtain ⟨k', v'⟩ := y
      obtain ⟨hk', hys⟩ := List.pairwise_cons.1 hy
      have hkk : k = k' :=
        eq_of_not_lt (not_lt_of_lookup_eq hk' (h k)) (not_lt_of_lookup_eq hk (h k').symm)
      subst hkk
      have hv := h k
      rw [lookup_cons, lookup_cons, if_pos rfl, if_pos rfl] at hv
      rw [Option.some.inj hv]
      congr 1
      refine ih hxs hys fun key => ?_
      by_cases hkey : key = k
      · rw [hkey, lookup_eq_none_of_forall_lt hk, lookup_eq_none_of_forall_lt hk']
      · have := h key
        rwa [lookup_cons, lookup_cons, if_neg hkey, if_neg hkey] at this

theorem ext {d e : Dict α} (h : ∀ key, d.get? key = e.get? key) : d = e := by
  obtain ⟨xs, hx⟩ := d
  obtain ⟨ys, hy⟩ := e
  obtain rfl := entries_eq_of_lookup_eq hx hy h
  rfl

end Dict

end QueryFilter
