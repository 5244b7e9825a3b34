/-!
# Filter maps

A filter map holds entries in order: a key with a text, or a key with a filter map of its own.
Inserting under a key that is present puts the new entry in the place of the old one.
-/

namespace QueryFilter

inductive FilterMap where
  | empty
  | text (key raw : String) (rest : FilterMap)
  | nested (key : String) (inner rest : FilterMap)
  deriving DecidableEq, Repr, Inhabited

inductive FilterEntry where
  | text (raw : String)
  | nested (filters : FilterMap)
  deriving DecidableEq, Repr

namespace FilterMap

def cons (key : String) (entry : FilterEntry) (rest : FilterMap) : FilterMap :=
  match entry with
  | .text raw => .text key raw rest
  | .nested inner => .nested key inner rest

def entries : FilterMap → List (String × FilterEntry)
  | empty => []
  | text key raw rest => (key, .text raw) :: rest.entries
  | nested key inner rest => (key, .nested inner) :: rest.entries

def keys (filters : FilterMap) : List String := filters.entries.map Prod.fst

def size (filters : FilterMap) : Nat := filters.entries.length

def get? (filters : FilterMap) (key : String) : Option FilterEntry := filters.entries.lookup key

def ofEntries : List (String × FilterEntry) → FilterMap
  | [] => empty
  | (key, entry) :: rest => cons key entry (ofEntries rest)

/-- Puts an entry in the place of the one under its key, or else at the end. -/
def insert (filters : FilterMap) (key : String) (entry : FilterEntry) : FilterMap :=
  match filters with
  | empty => cons key entry empty
  | text k raw rest =>
    if k = key then cons key entry rest else text k raw (rest.insert key entry)
  | nested k inner rest =>
    if k = key then cons key entry rest else nested k inner (rest.insert key entry)

def insertAll (filters : FilterMap) (entries : List (String × FilterEntry)) : FilterMap :=
  entries.foldl (fun filters (key, entry) => filters.insert key entry) filters

def append : FilterMap → FilterMap → FilterMap
  | empty, other => other
  | text key raw rest, other => text key raw (rest.append other)
  | nested key inner rest, other => nested key inner (rest.append other)

instance : Append FilterMap := ⟨append⟩

/-- How many maps are nested in one another, this one included. -/
def depth : FilterMap → Nat
  | empty => 1
  | text _ _ rest => rest.depth
  | nested _ inner rest => max (inner.depth + 1) rest.depth

/-- Whether no level has two entries under one key. -/
def Distinct : FilterMap → Prop
  | empty => True
  | text key _ rest => key ∉ rest.keys ∧ rest.Distinct
  | nested key inner rest => key ∉ rest.keys ∧ inner.Distinct ∧ rest.Distinct

end FilterMap

def FilterEntry.Distinct : FilterEntry → Prop
  | .text _ => True
  | .nested filters => filters.Distinct

namespace FilterMap

@[simp] theorem entries_cons (key : String) (entry : FilterEntry) (rest : FilterMap) :
    (cons key entry rest).entries = (key, entry) :: rest.entries := by
  cases entry <;> rfl

@[simp] theorem empty_append (filters : FilterMap) : empty ++ filters = filters := rfl

@[simp] theorem keys_cons (key : String) (entry : FilterEntry) (rest : FilterMap) :
    (cons key entry rest).keys = key :: rest.keys := by
  rw [keys, entries_cons]
  rfl

theorem distinct_cons {key : String} {entry : FilterEntry} {rest : FilterMap} :
    (cons key entry rest).Distinct ↔ key ∉ rest.keys ∧ entry.Distinct ∧ rest.Distinct := by
  cases entry <;> simp [cons, Distinct, FilterEntry.Distinct]

theorem insert_cons (k : String) (e : FilterEntry) (rest : FilterMap) (key : String)
    (entry : FilterEntry) :
    (cons k e rest).insert key entry =
      if k = key then cons key entry rest else cons k e (rest.insert key entry) := by
  cases e <;> rfl

/-- Induction on the entries of the outermost level. -/
theorem cons_induction {motive : FilterMap → Prop} (empty : motive .empty)
    (cons : ∀ key entry rest, motive rest → motive (.cons key entry rest)) :
    (filters : FilterMap) → motive filters
  | .empty => empty
  | .text key raw rest => cons key (.text raw) rest (cons_induction empty cons rest)
  | .nested key inner rest => cons key (.nested inner) rest (cons_induction empty cons rest)

theorem mem_keys_insert {filters : FilterMap} {key other : String} {entry : FilterEntry} :
    other ∈ (filters.insert key entry).keys ↔ other = key ∨ other ∈ filters.keys := by
  induction filters using cons_induction with
  | empty => simp [insert, keys, entries]
  | cons k e rest ih =>
    rw [insert_cons]
    by_cases h : k = key
    · simp [h]
    · rw [if_neg h, keys_cons, keys_cons, List.mem_cons, List.mem_cons, ih]
      exact or_left_comm

end FilterMap

end QueryFilter
