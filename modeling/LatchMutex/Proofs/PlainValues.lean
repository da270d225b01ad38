import Mathlib.Data.List.Induction
import LatchMutex.Json.Typed
import LatchMutex.Proofs.ScannedText

namespace LatchMutex

/-!
# Plain values read back

A plain value is the value of its own tree as long as it is nested no deeper than
the reader goes.  A record prints its fields in the order of their declaration,
so what is read back is the object with these members in ascending order; each
field is found in it under its name.
-/

namespace WideInteger

/-- The literal of an integer spells it. -/
theorem integer?_literal (integer : WideInteger) :
    integer.literal.integer? = some integer.value := by
  obtain ⟨value, inRange⟩ := integer
  have size : (UInt64.size : Int) = 18446744073709551616 := rfl
  have least : Int64.minValue.toInt = -9223372036854775808 := rfl
  have small : value.natAbs ≤ Literal.wordLimit := by
    change value.natAbs ≤ 18446744073709551616
    omega
  simp only [literal, Literal.integer?, Literal.isInteger, Digits.toNatUpTo_eq_min,
    Digits.toNat_ofNat, Nat.min_eq_right small]
  obtain ⟨magnitude, same⟩ : ∃ magnitude, value.natAbs = magnitude := ⟨_, rfl⟩
  rw [same]
  by_cases negative : value < 0
  · have nonzero : (magnitude : Int) ≠ 0 := by omega
    have value : -(magnitude : Int) = value := by omega
    simpa [negative] using ⟨by omega, value⟩
  · have value : (magnitude : Int) = value := by omega
    simpa [negative] using value

/-- An integer is the value of its own literal. -/
theorem number?_literal (integer : WideInteger) :
    integer.literal.number? = some (.integer integer) := by
  rw [Literal.number?, integer.integer?_literal, Option.bind_some, Number.ofInt?,
    dif_pos integer.inRange]

end WideInteger

namespace Json

theorem find?_insertMember
    (name key : String)
    (value : Json)
    (members : List (String × Json)) :
    ((insertMember key value members).find? fun member => member.1 = name) =
      if key = name then some (key, value) else members.find? fun member => member.1 = name := by
  induction members with
  | nil =>
      by_cases same : key = name <;> simp [insertMember, same]
  | cons member rest inductionHypothesis =>
      unfold insertMember
      grind

/-- The member that was stored last is found, and the others are as they were. -/
theorem member?_ofMembers_concat
    (name key : String)
    (value : Json)
    (members : List (String × Json)) :
    member? name (ofMembers (members ++ [(key, value)])) =
      if key = name then some value else member? name (ofMembers members) := by
  simp only [ofMembers, List.foldl_append, List.foldl_cons, List.foldl_nil, member?,
    find?_insertMember]
  split <;> simp

/-- A member with the greatest key goes to the end. -/
theorem insertMember_of_ascends
    {key : String}
    {members : List (String × Json)}
    (ascends : ∀ member ∈ members, member.1 < key)
    (value : Json) :
    insertMember key value members = members ++ [(key, value)] := by
  induction members with
  | nil =>
      rfl
  | cons member rest inductionHypothesis =>
      have before : member.1 < key := ascends member (by simp)
      have different : key ≠ member.1 := fun same => String.lt_irrefl key (same ▸ before)
      have later : ¬ key < member.1 := String.lt_asymm before
      have others := inductionHypothesis fun other here => ascends other (by simp [here])
      simp [insertMember, different, later, others]

/-- Members in ascending order stay as they are. -/
theorem ofMembers_of_ascending
    {members : List (String × Json)}
    (ascending : (members.map Prod.fst).Pairwise (· < ·)) :
    ofMembers members = .object members := by
  induction members using List.reverseRecOn with
  | nil =>
      rfl
  | append_singleton earlier last inductionHypothesis =>
      rw [List.map_append, List.pairwise_append] at ascending
      obtain ⟨sorted, -, below⟩ := ascending
      have stored := inductionHypothesis sorted
      simp only [ofMembers, object.injEq] at stored
      have ascends : ∀ member ∈ earlier, member.1 < last.1 := fun member here =>
        below member.1 (List.mem_map_of_mem here) last.1 (by simp)
      simp only [ofMembers, List.foldl_append, stored, List.foldl_cons, List.foldl_nil,
        insertMember_of_ascends ascends]

/-- A member is stored in ascending order, and brings nothing but itself. -/
theorem ascends_insertMember
    {members : List (String × Json)}
    (ascending : (members.map Prod.fst).Pairwise (· < ·))
    (key : String)
    (value : Json) :
    ((insertMember key value members).map Prod.fst).Pairwise (· < ·) ∧
      ∀ member ∈ insertMember key value members, member = (key, value) ∨ member ∈ members := by
  induction members with
  | nil =>
      simp [insertMember]
  | cons first rest inductionHypothesis =>
      obtain ⟨firstKey, firstValue⟩ := first
      rw [List.map_cons, List.pairwise_cons] at ascending
      obtain ⟨below, sorted⟩ := ascending
      obtain ⟨laterSorted, brings⟩ := inductionHypothesis sorted
      unfold insertMember
      split
      next same =>
        refine ⟨List.pairwise_cons.mpr ⟨same ▸ below, sorted⟩, ?_⟩
        grind
      next different =>
        split
        next before =>
          refine ⟨?_, by grind⟩
          refine List.pairwise_cons.mpr ⟨?_, List.pairwise_cons.mpr ⟨below, sorted⟩⟩
          exact List.forall_mem_cons.mpr
            ⟨before, fun other there => String.lt_trans before (below other there)⟩
        next behind =>
          refine ⟨List.pairwise_cons.mpr ⟨?_, laterSorted⟩, by grind⟩
          intro other there
          obtain ⟨member, stored, rfl⟩ := List.mem_map.mp there
          rcases brings member stored with rfl | old
          · exact String.not_le.mp fun le =>
              different (String.le_antisymm le (String.not_lt.mp behind))
          · exact below _ (List.mem_map_of_mem old)

theorem ofMembers_ne_null (members : List (String × Json)) : ofMembers members ≠ .null := by
  simp [ofMembers]

/-- An object of plain values is plain. -/
theorem plain_ofMembers
    {depth : Nat}
    {members : List (String × Json)}
    (plain : ∀ member ∈ members, member.2.Plain depth) :
    (ofMembers members).Plain (depth + 1) := by
  have stored :
      ∃ sorted,
        ofMembers members = .object sorted ∧
          (sorted.map Prod.fst).Pairwise (· < ·) ∧ ∀ member ∈ sorted, member ∈ members := by
    clear plain
    induction members using List.reverseRecOn with
    | nil =>
        exact ⟨[], rfl, .nil, by simp⟩
    | append_singleton earlier last inductionHypothesis =>
        obtain ⟨sorted, objectIs, ascending, old⟩ := inductionHypothesis
        obtain ⟨key, value⟩ := last
        obtain ⟨ascends, brings⟩ := ascends_insertMember ascending key value
        refine ⟨_, ?_, ascends, ?_⟩
        · simp only [ofMembers, object.injEq] at objectIs
          simp only [ofMembers, List.foldl_append, objectIs, List.foldl_cons, List.foldl_nil]
        · intro member there
          rcases brings member there with rfl | earlierMember
          · simp
          · exact List.mem_append_left _ (old member earlierMember)
  obtain ⟨sorted, objectIs, ascending, old⟩ := stored
  rw [objectIs]
  exact .object ascending fun member there => plain member (old member there)

theorem itemsWithin?_itemTrees
    {depth : Nat}
    {items : List Json}
    (each : ∀ item ∈ items, item.tree.toJsonWithin? depth = some item) :
    Raw.itemsWithin? depth (itemTrees items) = some items := by
  induction items with
  | nil =>
      rfl
  | cons item rest inductionHypothesis =>
      have first := each item (by simp)
      have others := inductionHypothesis fun other here => each other (by simp [here])
      simp [itemTrees, Raw.itemsWithin?, first, others]

theorem membersWithin?_memberTrees
    {depth : Nat}
    {members : List (String × Json)}
    (each : ∀ member ∈ members, member.2.tree.toJsonWithin? depth = some member.2) :
    Raw.membersWithin? depth (memberTrees members) = some members := by
  induction members with
  | nil =>
      rfl
  | cons member rest inductionHypothesis =>
      have first := each member (by simp)
      have others := inductionHypothesis fun other here => each other (by simp [here])
      simp [memberTrees, Raw.membersWithin?, first, others]

/-- A plain value is the value of its own tree. -/
theorem Plain.toJsonWithin?
    {depth : Nat}
    {value : Json}
    (plain : value.Plain depth) :
    value.tree.toJsonWithin? depth = some value := by
  induction plain with
  | integer value =>
      simp [tree, Number.literal, Raw.toJsonWithin?, value.number?_literal]
  | array items each =>
      simp [tree, Raw.toJsonWithin?, itemsWithin?_itemTrees each]
  | object ascending items each =>
      simp [tree, Raw.toJsonWithin?, membersWithin?_memberTrees each,
        ofMembers_of_ascending ascending]
  | _ =>
      simp [tree, Raw.toJsonWithin?]

/-- Members with plain values are read back in ascending order. -/
theorem parse?_compact_object
    {members : List (String × Json)}
    (plain : ∀ member ∈ members, member.2.Plain 126) :
    Json.parse? (Json.object members).toDocument.compact = some (ofMembers members) := by
  have scans : Scans (.object members) :=
    scans_object fun member here => (plain member here).scans
  have values : Raw.membersWithin? 126 (memberTrees members) = some members :=
    membersWithin?_memberTrees fun member here => (plain member here).toJsonWithin?
  rw [Json.parse?, scans.parse?]
  simp [Raw.toJson?, Raw.greatestDepth, tree, Raw.toJsonWithin?, values]

/-- The members of a record: its fields that are there. -/
def present (fields : List (String × Option Json)) : List (String × Json) :=
  fields.filterMap fun field => field.2.map (field.1, ·)

/-- A field at the end is found under its name, unless it is absent. -/
theorem member?_present_concat
    (name key : String)
    (field : Option Json)
    (fields : List (String × Option Json)) :
    member? name (ofMembers (present (fields ++ [(key, field)]))) =
      if key = name ∧ field.isSome then
        field
      else
        member? name (ofMembers (present fields)) := by
  cases field with
  | none =>
      simp [present]
  | some value =>
      have stored := member?_ofMembers_concat name key value (present fields)
      simpa [present] using stored

/-- A name that no field has is not found. -/
theorem member?_present_of_not_mem
    {fields : List (String × Option Json)}
    {name : String}
    (absent : name ∉ fields.map Prod.fst) :
    member? name (ofMembers (present fields)) = none := by
  induction fields using List.reverseRecOn with
  | nil =>
      rfl
  | append_singleton earlier last inductionHypothesis =>
      obtain ⟨key, field⟩ := last
      simp only [List.map_append, List.mem_append, not_or] at absent
      obtain ⟨absent, different⟩ := absent
      have other : key ≠ name := fun same => different (by simp [same])
      simp [member?_present_concat, other, inductionHypothesis absent]

/-- Each field is found under its name, or absent if it is. -/
theorem member?_present
    {fields : List (String × Option Json)}
    (distinct : (fields.map Prod.fst).Nodup)
    {name : String}
    {field : Option Json}
    (member : (name, field) ∈ fields) :
    member? name (ofMembers (present fields)) = field := by
  induction fields using List.reverseRecOn with
  | nil =>
      simp at member
  | append_singleton earlier last inductionHypothesis =>
      obtain ⟨key, stored⟩ := last
      rw [List.map_append, List.nodup_append] at distinct
      obtain ⟨distinct, -, apart⟩ := distinct
      have other (here : name ∈ earlier.map Prod.fst) : key ≠ name :=
        fun same => apart name here key (by simp) same.symm
      rcases List.mem_append.mp member with here | isLast
      · have named : name ∈ earlier.map Prod.fst := List.mem_map_of_mem here
        simp [member?_present_concat, other named, inductionHypothesis distinct here]
      · obtain ⟨rfl, rfl⟩ := Prod.mk.inj (List.mem_singleton.mp isLast)
        have absent : name ∉ earlier.map Prod.fst := fun here => other here rfl
        cases field <;> simp [member?_present_concat, member?_present_of_not_mem absent]

/-- The fields of a record are read back by their names. -/
theorem fields?_present
    {fields : List (String × Option Json)}
    (distinct : (fields.map Prod.fst).Nodup) :
    Json.fields? (fields.map Prod.fst) (ofMembers (present fields)) =
      some (fields.map Prod.snd) := by
  have found :
      (fields.map Prod.fst).map (fun name => member? name (ofMembers (present fields))) =
        fields.map Prod.snd := by
    rw [List.map_map]
    exact List.map_congr_left fun field here => member?_present distinct here
  exact congrArg some found

end Json

end LatchMutex
