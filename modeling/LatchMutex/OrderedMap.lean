import LatchMutex.Table

namespace LatchMutex

/-!
# Ordered maps

A finite map from texts as the list of its entries, in ascending order of their keys
and each key once.  An entry is made at its place when its key is first asked for, so
the values come in the order of their keys whatever the order of asking.
-/

/-- A finite map from texts to values. -/
structure OrderedMap (Value : Type) where
  entries : List (String × Value)
  ascending : (entries.map Prod.fst).Pairwise (· < ·)

namespace OrderedMap

variable {Value : Type}

/-- Change the value of a key in ascending entries; a missing key is entered with a first value. -/
def adjust (key : String) (first : Value) (change : Value → Value) :
    List (String × Value) → List (String × Value)
  | [] => [(key, change first)]
  | (stored, value) :: rest =>
      if key = stored then
        (key, change value) :: rest
      else if key < stored then
        (key, change first) :: (stored, value) :: rest
      else
        (stored, value) :: adjust key first change rest

variable {key other : String} {first : Value} {change : Value → Value}

theorem mem_keys_adjust (entries : List (String × Value)) :
    other ∈ (adjust key first change entries).map Prod.fst ↔
      other = key ∨ other ∈ entries.map Prod.fst := by
  induction entries with
  | nil =>
      simp [adjust]
  | cons entry rest inductionHypothesis =>
      unfold adjust
      grind

/-- Ascending entries still ascend. -/
theorem ascending_adjust
    {entries : List (String × Value)}
    (ascending : (entries.map Prod.fst).Pairwise (· < ·)) :
    ((adjust key first change entries).map Prod.fst).Pairwise (· < ·) := by
  induction entries with
  | nil =>
      simp [adjust]
  | cons entry rest inductionHypothesis =>
      obtain ⟨below, sorted⟩ := List.pairwise_cons.mp ascending
      unfold adjust
      split
      next same =>
        subst same
        exact ascending
      next different =>
        split
        next before =>
          refine List.pairwise_cons.mpr ⟨?_, ascending⟩
          exact List.forall_mem_cons.mpr
            ⟨before, fun later there => String.lt_trans before (below later there)⟩
        next behind =>
          refine List.pairwise_cons.mpr ⟨?_, inductionHypothesis sorted⟩
          intro later there
          rcases (mem_keys_adjust rest).mp there with rfl | old
          · exact String.not_le.mp fun le =>
              different (String.le_antisymm le (String.not_lt.mp behind))
          · exact below later old

theorem lookup_adjust_self
    {entries : List (String × Value)}
    (ascending : (entries.map Prod.fst).Pairwise (· < ·)) :
    Table.lookup key (adjust key first change entries) =
      some (change ((Table.lookup key entries).getD first)) := by
  induction entries with
  | nil =>
      simp [adjust, Table.lookup]
  | cons entry rest inductionHypothesis =>
      obtain ⟨below, sorted⟩ := List.pairwise_cons.mp ascending
      unfold adjust
      split
      next same =>
        simp [Table.lookup, same]
      next different =>
        split
        next before =>
          -- A key before the first one is nowhere among the later ones.
          have absent : key ∉ (entry :: rest).map Prod.fst := by
            simp only [List.map_cons, List.mem_cons, not_or]
            exact ⟨different, fun there => String.lt_asymm before (below key there)⟩
          rw [Table.lookup_of_not_mem absent]
          simp [Table.lookup]
        next behind =>
          simp [Table.lookup, Ne.symm different, inductionHypothesis sorted]

theorem lookup_adjust_of_ne
    (different : other ≠ key)
    (entries : List (String × Value)) :
    Table.lookup other (adjust key first change entries) = Table.lookup other entries := by
  induction entries with
  | nil =>
      simp [adjust, Table.lookup, Ne.symm different]
  | cons entry rest inductionHypothesis =>
      unfold adjust
      split
      next same =>
        simp [Table.lookup, ← same, Ne.symm different]
      next =>
        split
        next =>
          simp [Table.lookup, Ne.symm different]
        next =>
          simp [Table.lookup, inductionHypothesis]

/-- The map with no entry. -/
def empty : OrderedMap Value where
  entries := []
  ascending := .nil

/-- Change the value of a key, which is entered with a first value if it is missing. -/
def alter
    (map : OrderedMap Value)
    (key : String)
    (first : Value)
    (change : Value → Value) :
    OrderedMap Value where
  entries := adjust key first change map.entries
  ascending := ascending_adjust map.ascending

/-- The value of a key, if it has one. -/
def find? (map : OrderedMap Value) (key : String) : Option Value :=
  Table.lookup key map.entries

/-- The keys, ascending. -/
def keys (map : OrderedMap Value) : List String :=
  map.entries.map Prod.fst

/-- The values, in ascending order of their keys. -/
def values (map : OrderedMap Value) : List Value :=
  map.entries.map Prod.snd

@[simp] theorem find?_empty (key : String) : (empty : OrderedMap Value).find? key = none :=
  rfl

/-- A key that is altered has the changed value. -/
@[simp] theorem find?_alter_self
    (map : OrderedMap Value)
    (key : String)
    (first : Value)
    (change : Value → Value) :
    (map.alter key first change).find? key = some (change ((map.find? key).getD first)) :=
  lookup_adjust_self map.ascending

/-- Altering one key leaves the others alone. -/
theorem find?_alter_of_ne
    (map : OrderedMap Value)
    (different : other ≠ key)
    (first : Value)
    (change : Value → Value) :
    (map.alter key first change).find? other = map.find? other :=
  lookup_adjust_of_ne different map.entries

/-- What the entries and a first value have and the change keeps, the entries have afterwards. -/
theorem forall_find?_alter
    {holds : String → Value → Prop}
    {map : OrderedMap Value}
    (holding : ∀ other value, map.find? other = some value → holds other value)
    (starts : holds key first)
    (keeps : ∀ value, holds key value → holds key (change value)) :
    ∀ other value, (map.alter key first change).find? other = some value → holds other value := by
  intro other value there
  by_cases same : other = key
  · subst same
    rw [find?_alter_self, Option.some.injEq] at there
    subst there
    cases old : map.find? other with
    | none => exact keeps first starts
    | some stored => exact keeps stored (holding other stored old)
  · rw [find?_alter_of_ne map same] at there
    exact holding other value there

theorem nodup_keys (map : OrderedMap Value) : map.keys.Nodup :=
  map.ascending.imp fun less => by
    rintro rfl
    exact String.lt_irrefl _ less

theorem lookup_eq_some_iff
    {entries : List (String × Value)}
    (distinct : (entries.map Prod.fst).Nodup)
    {value : Value} :
    Table.lookup key entries = some value ↔ (key, value) ∈ entries := by
  induction entries with
  | nil =>
      simp [Table.lookup]
  | cons entry rest inductionHypothesis =>
      obtain ⟨stored, old⟩ := entry
      obtain ⟨fresh, distinctRest⟩ := List.nodup_cons.mp distinct
      by_cases same : stored = key
      · subst same
        have absent : (stored, value) ∉ rest := fun there =>
          fresh (List.mem_map.mpr ⟨_, there, rfl⟩)
        simp [Table.lookup, absent, eq_comm]
      · simp [Table.lookup, same, Ne.symm same, inductionHypothesis distinctRest]

/-- A key has a value just where the two are an entry. -/
theorem find?_eq_some_iff {map : OrderedMap Value} {value : Value} :
    map.find? key = some value ↔ (key, value) ∈ map.entries :=
  lookup_eq_some_iff map.nodup_keys

/-- The keys are those that have a value. -/
theorem mem_keys {map : OrderedMap Value} : key ∈ map.keys ↔ (map.find? key).isSome := by
  simp only [keys, List.mem_map, Option.isSome_iff_exists, find?_eq_some_iff]
  constructor
  · rintro ⟨⟨stored, value⟩, there, rfl⟩
    exact ⟨value, there⟩
  · rintro ⟨value, there⟩
    exact ⟨(key, value), there, rfl⟩

theorem mem_values {map : OrderedMap Value} {value : Value} :
    value ∈ map.values ↔ ∃ key, map.find? key = some value := by
  simp only [values, List.mem_map, find?_eq_some_iff]
  constructor
  · rintro ⟨⟨key, stored⟩, there, rfl⟩
    exact ⟨key, there⟩
  · rintro ⟨key, there⟩
    exact ⟨(key, value), there, rfl⟩

end OrderedMap

end LatchMutex
