namespace LatchMutex

/-!
# Finite tables

A finite map as the list of its entries, each key once, in the order in which
the keys were first stored.  A key that was never stored reads as the default
value, so a table is a total function that differs from the default in finitely
many places.
-/

/-- A finite map from keys to values. -/
structure Table (Key Value : Type) where
  entries : List (Key × Value) := []
  deriving Repr, DecidableEq, Inhabited

namespace Table

variable {Key Value : Type} [DecidableEq Key]

/-- The table with no entry. -/
def empty : Table Key Value := {}

/-- Value stored under a key in a list of entries. -/
def lookup (key : Key) : List (Key × Value) → Option Value
  | [] => none
  | (stored, value) :: rest =>
      if stored = key then some value else lookup key rest

/-- Store a value under a key in a list of entries, in place if the key is there. -/
def store (key : Key) (value : Value) : List (Key × Value) → List (Key × Value)
  | [] => [(key, value)]
  | (stored, old) :: rest =>
      if stored = key then
        (key, value) :: rest
      else
        (stored, old) :: store key value rest

/-- The value stored under a key, if there is one. -/
def find? (table : Table Key Value) (key : Key) : Option Value :=
  lookup key table.entries

/-- The value stored under a key, or the default value. -/
def get [Inhabited Value] (table : Table Key Value) (key : Key) : Value :=
  (table.find? key).getD default

/-- Store a value under a key. -/
def set (table : Table Key Value) (key : Key) (value : Value) : Table Key Value where
  entries := store key value table.entries

/-- Remove every entry of a key. -/
def erase (table : Table Key Value) (key : Key) : Table Key Value where
  entries := table.entries.filter fun entry => entry.1 ≠ key

/-- Whether a key is stored. -/
def contains (table : Table Key Value) (key : Key) : Bool :=
  (table.find? key).isSome

/-- The stored keys, in the order of their first storing. -/
def keys (table : Table Key Value) : List Key :=
  table.entries.map Prod.fst

theorem lookup_store_self (key : Key) (value : Value) (entries : List (Key × Value)) :
    lookup key (store key value entries) = some value := by
  induction entries with
  | nil => simp [store, lookup]
  | cons entry rest inductionHypothesis =>
      by_cases same : entry.1 = key <;> simp [store, lookup, same, inductionHypothesis]

theorem lookup_store_of_ne
    {stored key : Key}
    (different : key ≠ stored)
    (value : Value)
    (entries : List (Key × Value)) :
    lookup key (store stored value entries) = lookup key entries := by
  induction entries with
  | nil => simp [store, lookup, Ne.symm different]
  | cons entry rest inductionHypothesis =>
      by_cases same : entry.1 = stored
      · simp [store, lookup, same, Ne.symm different]
      · simp [store, lookup, same, inductionHypothesis]

/-- A stored key reads the stored value. -/
@[simp] theorem find?_set_self (table : Table Key Value) (key : Key) (value : Value) :
    (table.set key value).find? key = some value :=
  lookup_store_self key value table.entries

/-- Storing under one key leaves the others alone. -/
theorem find?_set_of_ne
    (table : Table Key Value)
    {stored key : Key}
    (different : key ≠ stored)
    (value : Value) :
    (table.set stored value).find? key = table.find? key :=
  lookup_store_of_ne different value table.entries

theorem find?_set
    (table : Table Key Value)
    (stored key : Key)
    (value : Value) :
    (table.set stored value).find? key =
      if key = stored then some value else table.find? key := by
  split
  next same =>
    rw [same, find?_set_self]
  next different =>
    exact find?_set_of_ne table different value

/-- A stored key reads the stored value. -/
@[simp] theorem get_set_self
    [Inhabited Value]
    (table : Table Key Value)
    (key : Key)
    (value : Value) :
    (table.set key value).get key = value := by
  simp [get]

/-- Storing under one key leaves the others alone. -/
theorem get_set_of_ne
    [Inhabited Value]
    (table : Table Key Value)
    {stored key : Key}
    (different : key ≠ stored)
    (value : Value) :
    (table.set stored value).get key = table.get key := by
  simp [get, find?_set_of_ne table different]

theorem lookup_of_not_mem
    {key : Key}
    {entries : List (Key × Value)}
    (absent : key ∉ entries.map Prod.fst) :
    lookup key entries = none := by
  induction entries with
  | nil => rfl
  | cons entry rest inductionHypothesis =>
      simp only [List.map_cons, List.mem_cons, not_or] at absent
      simp [lookup, Ne.symm absent.1, inductionHypothesis absent.2]

/-- A key that is not stored reads the default value. -/
theorem get_of_not_mem_keys
    [Inhabited Value]
    {table : Table Key Value}
    {key : Key}
    (absent : key ∉ table.keys) :
    table.get key = default := by
  simp [get, find?, lookup_of_not_mem absent]

/-- An erased key is not there. -/
@[simp] theorem find?_erase_self (table : Table Key Value) (key : Key) :
    (table.erase key).find? key = none := by
  refine lookup_of_not_mem fun member => ?_
  obtain ⟨entry, kept, same⟩ := List.mem_map.mp member
  simpa [same] using (List.mem_filter.mp kept).2

theorem lookup_filter_ne
    {erased key : Key}
    (different : key ≠ erased)
    (entries : List (Key × Value)) :
    lookup key (entries.filter fun entry => entry.1 ≠ erased) = lookup key entries := by
  induction entries with
  | nil =>
      rfl
  | cons entry rest inductionHypothesis =>
      by_cases same : entry.1 = erased
      · rw [List.filter_cons_of_neg (by simpa using same), inductionHypothesis, lookup,
          if_neg fun here => different (here.symm.trans same)]
      · rw [List.filter_cons_of_pos (by simpa using same), lookup, lookup, inductionHypothesis]

/-- Erasing one key leaves the others alone. -/
theorem find?_erase_of_ne
    (table : Table Key Value)
    {erased key : Key}
    (different : key ≠ erased) :
    (table.erase erased).find? key = table.find? key :=
  lookup_filter_ne different table.entries

theorem find?_erase (table : Table Key Value) (erased key : Key) :
    (table.erase erased).find? key = if key = erased then none else table.find? key := by
  split
  next same =>
    rw [same, find?_erase_self]
  next different =>
    exact find?_erase_of_ne table different

/-- Storing what is there already changes nothing. -/
theorem set_of_find?
    {table : Table Key Value}
    {key : Key}
    {value : Value}
    (there : table.find? key = some value) :
    table.set key value = table := by
  obtain ⟨entries⟩ := table
  simp only [find?, set, Table.mk.injEq] at there ⊢
  induction entries with
  | nil =>
      contradiction
  | cons entry rest inductionHypothesis =>
      obtain ⟨stored, old⟩ := entry
      by_cases same : stored = key
      · simp only [lookup, same, ↓reduceIte, Option.some.injEq] at there
        simp [store, same, there]
      · simp only [lookup, same, ↓reduceIte] at there
        simp [store, same, inductionHypothesis there]

end Table

end LatchMutex
