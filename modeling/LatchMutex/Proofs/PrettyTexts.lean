import LatchMutex.Json.Typed
import LatchMutex.Proofs.ScannedText

namespace LatchMutex

/-!
# Texts with one item a line

New lines and indents are blanks, and between tokens the scanner passes over these.
So a document without floats scans to the tokens of the same tree at every depth, and
its text is read back as this tree.  A record prints the fields that are there, each
under a name of its own; in the tree every field is found under its name, and a field
that is absent is not found.
-/

/-- A list is read if each of its items is. -/
theorem mapM_some_of_forall
    {Source Target : Type}
    {read : Source → Option Target}
    {value : Source → Target}
    {items : List Source}
    (each : ∀ item ∈ items, read item = some (value item)) :
    items.mapM read = some (items.map value) := by
  induction items with
  | nil =>
      rfl
  | cons item rest inductionHypothesis =>
      obtain ⟨first, later⟩ := List.forall_mem_cons.mp each
      rw [List.mapM_cons, first, inductionHypothesis later]
      rfl

/-- The fields of an object whose keys are all texts. -/
theorem Raw.fields?_object (names : List String) (members : List (String × Raw)) :
    Raw.fields? names (.object (members.map fun member => (some member.1, member.2))) =
      names.mapM (field? members) := by
  have named :
      (members.map fun member => (some member.1, member.2)).mapM
          (fun member => member.1.map (·, member.2)) =
        some members := by
    rw [List.mapM_map]
    exact (mapM_some_of_forall fun _ _ => rfl).trans (congrArg some (List.map_id members))
  exact congrArg (Option.bind · fun named => names.mapM (field? named)) named

namespace Document

mutual

/-- The tree that is printed for a document. -/
def tree : Document → Raw
  | .null => .null
  | .bool value => .bool value
  | .number value => .number value.literal
  | .string text => .string (some text)
  | .array items => .array (itemTrees items)
  | .object members => .object (memberTrees members)

/-- Trees of items. -/
def itemTrees : List Document → List Raw
  | [] => []
  | item :: rest => tree item :: itemTrees rest

/-- Trees of members. -/
def memberTrees : List (String × Document) → List (Option String × Raw)
  | [] => []
  | (key, value) :: rest => (some key, tree value) :: memberTrees rest

end

theorem itemTrees_eq (items : List Document) : itemTrees items = items.map tree := by
  induction items with
  | nil =>
      rfl
  | cons item rest inductionHypothesis =>
      rw [itemTrees, inductionHypothesis, List.map_cons]

theorem memberTrees_eq (members : List (String × Document)) :
    memberTrees members = members.map fun (key, value) => (some key, value.tree) := by
  induction members with
  | nil =>
      rfl
  | cons member rest inductionHypothesis =>
      rw [memberTrees, inductionHypothesis, List.map_cons]

/-- A document without floats. -/
inductive Integral : Document → Prop where
  | null : Integral .null
  | bool (value : Bool) : Integral (.bool value)
  | integer (value : WideInteger) : Integral (.number (.integer value))
  | string (text : String) : Integral (.string text)
  | array {items : List Document} :
      (∀ item ∈ items, Integral item) →
      Integral (.array items)
  | object {members : List (String × Document)} :
      (∀ member ∈ members, Integral member.2) →
      Integral (.object members)

end Document

namespace Scan.Reads

/-- Blanks between tokens are passed over. -/
theorem blanks {characters : List Char} (blank : ∀ character ∈ characters, isBlank character) :
    Reads characters [] := by
  have passed (character : Char) (scan : Scan) (here : isBlank character) :
      scan.start character = some (scan.enter .between) := by
    simp only [isBlank, List.mem_cons, List.not_mem_nil, or_false, decide_eq_true_eq] at here
    rcases here with rfl | rfl | rfl | rfl <;> rfl
  intro earlier rest
  induction characters with
  | nil =>
      rfl
  | cons character others inductionHypothesis =>
      obtain ⟨first, later⟩ := List.forall_mem_cons.mp blank
      rw [List.cons_append, List.foldlM_cons]
      change (Scan.start _ character >>= _) = _
      rw [passed character _ first]
      exact inductionHypothesis later

theorem newLine (depth : Nat) : Reads (Document.newLine depth) [] := by
  refine .blanks ?_
  rw [Document.newLine, List.forall_mem_cons]
  exact ⟨by decide, fun character member => by rw [List.eq_of_mem_replicate member]; decide⟩

/-- The key of a member, on its line. -/
theorem memberName (depth : Nat) (key : String) :
    Reads (Document.newLine depth ++ Document.quote key ++ [':', ' '])
      [.string (some key), .colon] :=
  ((newLine depth).append (.quote key)).append
    (colon.append (.blanks (List.forall_mem_singleton.mpr (by decide))))

end Scan.Reads

namespace Document

open Scan

/-- What follows an item on the next line ends a number. -/
theorem prettyItemsAfter_ends (depth : Nat) (items : List Document) :
    ∃ next rest, prettyItemsAfter depth items = next :: rest ∧ EndsNumber next := by
  cases items with
  | nil =>
      exact ⟨'\n', _, rfl, by decide⟩
  | cons item others =>
      exact ⟨',', _, rfl, by decide⟩

/-- What follows a member on the next line ends a number. -/
theorem prettyMembersAfter_ends (depth : Nat) (members : List (String × Document)) :
    ∃ next rest, prettyMembersAfter depth members = next :: rest ∧ EndsNumber next := by
  cases members with
  | nil =>
      exact ⟨'\n', _, rfl, by decide⟩
  | cons member others =>
      exact ⟨',', _, rfl, by decide⟩

/-- A document scans to the tokens of its tree at every depth. -/
def Scans (document : Document) : Prop :=
  ∀ depth, ReadsBefore (document.prettyText depth) document.tree.tokens

/-- Further items scan if each of them does. -/
theorem reads_itemsAfter
    {items : List Document}
    (each : ∀ item ∈ items, item.Scans)
    (depth : Nat) :
    Reads (prettyItemsAfter depth items) (Raw.itemTokensAfter (itemTrees items)) := by
  induction items with
  | nil =>
      exact (Reads.newLine depth).append .closeBracket
  | cons item others inductionHypothesis =>
      obtain ⟨first, later⟩ := List.forall_mem_cons.mp each
      have value := (inductionHypothesis later).behind (prettyItemsAfter_ends depth others)
        (first (depth + 1))
      have line := Reads.comma.append ((Reads.newLine (depth + 1)).append value)
      simpa [prettyItemsAfter, itemTrees, Raw.itemTokensAfter] using line

/-- Further members scan if each of their values does. -/
theorem reads_membersAfter
    {members : List (String × Document)}
    (each : ∀ member ∈ members, member.2.Scans)
    (depth : Nat) :
    Reads (prettyMembersAfter depth members) (Raw.memberTokensAfter (memberTrees members)) := by
  induction members with
  | nil =>
      exact (Reads.newLine depth).append .closeBrace
  | cons member others inductionHypothesis =>
      obtain ⟨key, item⟩ := member
      obtain ⟨first, later⟩ := List.forall_mem_cons.mp each
      have value := (inductionHypothesis later).behind (prettyMembersAfter_ends depth others)
        (first (depth + 1))
      have line := Reads.comma.append ((Reads.memberName (depth + 1) key).append value)
      simpa [prettyMembersAfter, memberTrees, Raw.memberTokensAfter] using line

/-- A document without floats scans. -/
theorem Integral.scans {document : Document} (integral : document.Integral) :
    document.Scans := by
  intro depth
  induction integral generalizing depth with
  | null =>
      exact Reads.null.before
  | bool value =>
      exact (Reads.boolText value).before
  | integer value =>
      exact ReadsBefore.integer value
  | string text =>
      exact (Reads.quote text).before
  | @array items _ each =>
      refine Reads.before ?_
      cases items with
      | nil =>
          exact Reads.openBracket.append .closeBracket
      | cons item others =>
          obtain ⟨first, later⟩ := List.forall_mem_cons.mp each
          have value := (reads_itemsAfter later depth).behind
            (prettyItemsAfter_ends depth others) (first (depth + 1))
          have opened := Reads.openBracket.append ((Reads.newLine (depth + 1)).append value)
          simpa [prettyText, prettyItems, tree, itemTrees, Raw.tokens, Raw.itemTokens]
            using opened
  | @object members _ each =>
      refine Reads.before ?_
      cases members with
      | nil =>
          exact Reads.openBrace.append .closeBrace
      | cons member others =>
          obtain ⟨key, item⟩ := member
          obtain ⟨first, later⟩ := List.forall_mem_cons.mp each
          have value := (reads_membersAfter later depth).behind
            (prettyMembersAfter_ends depth others) (first (depth + 1))
          have opened := Reads.openBrace.append ((Reads.memberName (depth + 1) key).append value)
          simpa [prettyText, prettyMembers, tree, memberTrees, Raw.tokens, Raw.memberTokens]
            using opened

/-- The text of a document without floats is read back as its tree. -/
theorem Integral.parse?_pretty {document : Document} (integral : document.Integral) :
    Raw.parse? document.pretty = some document.tree :=
  Raw.parse?_of_readsBefore (integral.scans 0)

/-- The members of a record: its fields that are there. -/
def present (fields : List (String × Option Document)) : List (String × Document) :=
  fields.filterMap fun field => field.2.map (field.1, ·)

@[simp] theorem present_nil : present [] = [] :=
  rfl

/-- A field of a record is an optional member. -/
@[simp] theorem present_cons
    (key : String)
    (field : Option Document)
    (rest : List (String × Option Document)) :
    present ((key, field) :: rest) = optional key field ++ present rest := by
  cases field <;> simp [present, optional]

/-- A record is without floats if its fields are. -/
theorem integral_present
    {fields : List (String × Option Document)}
    (each : ∀ field ∈ fields, ∀ document, field.2 = some document → document.Integral) :
    (object (present fields)).Integral := by
  refine .object fun member here => ?_
  obtain ⟨field, declared, there⟩ := List.mem_filterMap.mp here
  obtain ⟨document, same, rfl⟩ := Option.map_eq_some_iff.mp there
  exact each field declared document same

/-- The members under a name: the field of this name, if it is there. -/
theorem filter_present
    {fields : List (String × Option Document)}
    (distinct : (fields.map Prod.fst).Nodup)
    {name : String}
    {field : Option Document}
    (member : (name, field) ∈ fields) :
    (present fields).filter (fun member => member.1 = name) = optional name field := by
  have others
      {fields : List (String × Option Document)}
      (absent : name ∉ fields.map Prod.fst) :
      (present fields).filter (fun member => member.1 = name) = [] := by
    refine List.filter_eq_nil_iff.mpr fun member here => ?_
    obtain ⟨field, declared, there⟩ := List.mem_filterMap.mp here
    obtain ⟨document, -, rfl⟩ := Option.map_eq_some_iff.mp there
    have named : field.1 ∈ fields.map Prod.fst := List.mem_map_of_mem declared
    simpa using fun same : field.1 = name => absent (same ▸ named)
  induction fields with
  | nil =>
      simp at member
  | cons first rest inductionHypothesis =>
      obtain ⟨key, stored⟩ := first
      obtain ⟨absent, distinctRest⟩ := List.nodup_cons.mp distinct
      rw [present_cons, List.filter_append]
      rcases List.mem_cons.mp member with isFirst | later
      · obtain ⟨rfl, rfl⟩ := Prod.mk.inj isFirst
        rw [others absent]
        cases field <;> simp [optional]
      · have named : name ∈ rest.map Prod.fst := List.mem_map_of_mem later
        have different : key ≠ name := fun same => absent (same ▸ named)
        rw [inductionHypothesis distinctRest later]
        cases stored <;> simp [optional, different]

/-- The fields of a record are read back by their names from its tree. -/
theorem fields?_present
    {fields : List (String × Option Document)}
    (distinct : (fields.map Prod.fst).Nodup) :
    Readable.fields? (fields.map Prod.fst) (object (present fields)).tree =
      some (fields.map fun field => field.2.map tree) := by
  have found :
      ∀ field ∈ fields,
        Raw.field? ((present fields).map fun (key, value) => (key, value.tree)) field.1 =
          some (field.2.map tree) := by
    intro field member
    have kept := filter_present distinct member
    rw [Raw.field?, List.filter_map]
    simp only [Function.comp_def, kept]
    cases field.2 <;> rfl
  have spelled :
      (object (present fields)).tree =
        .object (((present fields).map fun (key, value) => (key, value.tree)).map
          fun member => (some member.1, member.2)) := by
    simp [tree, memberTrees_eq]
  rw [spelled]
  refine (Raw.fields?_object _ _).trans ?_
  rw [List.mapM_map]
  exact mapM_some_of_forall found

end Document

end LatchMutex
