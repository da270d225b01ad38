import LatchMutex.Files.FileAction
import LatchMutex.Proofs.PathNames

namespace LatchMutex

/-!
# Files written and read back

What a path leads to depends on the directories alone.  Writing or removing a file
leaves these as they are, so a path leads to the same place afterwards, and to
another file only if it leads to the place that was changed.
-/

namespace Text

theorem toList_loop_eq (bytes : ByteArray) (index : Nat) (earlier : List UInt8) :
    ByteArray.toList.loop bytes index earlier =
      earlier.reverse ++ bytes.data.toList.drop index := by
  fun_induction ByteArray.toList.loop bytes index earlier with
  | case1 index earlier inside inductionHypothesis =>
      have here : index < bytes.data.size := inside
      have inList : index < bytes.data.toList.length := Array.length_toList ▸ here
      have byte : bytes.get! index = bytes.data[index] := getElem!_pos bytes.data index here
      rw [inductionHypothesis, byte, List.drop_eq_getElem_cons inList]
      simp
  | case2 index earlier outside =>
      have behind : bytes.data.toList.length ≤ index := by
        simpa using outside
      simp [List.drop_eq_nil_of_le behind]

/-- The bytes of a text are the bytes of that text. -/
theorem ofBytes?_toBytes (text : String) : ofBytes? (toBytes text) = some text := by
  have same : (⟨(toBytes text).toArray⟩ : ByteArray) = text.toByteArray := by
    rw [toBytes, ByteArray.toList, toList_loop_eq]
    simp
  rw [ofBytes?, same, String.fromUTF8?, dif_pos text.isValidUTF8]
  rfl

end Text

namespace FileTree

/-- Parts that lead from a directory to a place, every part but the last by way of a directory. -/
inductive Leads (tree : FileTree) : Place → List String → Place → Prop where
  | here (place : Place) :
      Leads tree place [] place
  | stays
      {place final : Place} {rest : List String}
      (later : Leads tree place rest final) :
      Leads tree place ("." :: rest) final
  | climbs
      {place final : Place} {rest : List String}
      (later : Leads tree place.parent rest final) :
      Leads tree place (".." :: rest) final
  | arrives
      {place : Place} {part : String}
      (named : part ≠ "." ∧ part ≠ "..")
      (fits : part.utf8ByteSize ≤ longestName) :
      Leads tree place [part] (place.child part)
  | enters
      {place final : Place} {part : String} {rest : List String}
      (named : part ≠ "." ∧ part ≠ "..")
      (fits : part.utf8ByteSize ≤ longestName)
      (onward : rest ≠ [])
      (stands : tree.node? (place.child part) = some .directory)
      (later : Leads tree (place.child part) rest final) :
      Leads tree place (part :: rest) final

/-- Trees with the same directories, of which the same one is the current one. -/
structure SameDirectories (tree other : FileTree) : Prop where
  current : other.current = tree.current
  directories :
    ∀ place, other.node? place = some .directory ↔ tree.node? place = some .directory

/-- A tree that differs from another one in the file at a place, which may be new or gone. -/
structure ChangesFile (tree next : FileTree) (place : Place) : Prop where
  current : next.current = tree.current
  others : ∀ other, other ≠ place → next.node? other = tree.node? other
  before : tree.node? place ≠ some .directory
  after : next.node? place ≠ some .directory

variable
  {tree next other : FileTree} {place middle final : Place} {path : String}
  {parts front rest : List String} {content : List UInt8}

namespace SameDirectories

theorem refl (tree : FileTree) : SameDirectories tree tree where
  current := rfl
  directories _ := Iff.rfl

theorem symm (same : SameDirectories tree other) : SameDirectories other tree where
  current := same.current.symm
  directories place := (same.directories place).symm

theorem trans
    (first : SameDirectories tree next)
    (second : SameDirectories next other) :
    SameDirectories tree other where
  current := second.current.trans first.current
  directories place := (second.directories place).trans (first.directories place)

end SameDirectories

/-- Following parts comes to the place that they lead to. -/
theorem follow_eq_ok_iff :
    tree.follow place parts = .ok final ↔ tree.Leads place parts final := by
  constructor
  · intro follows
    induction parts generalizing place with
    | nil =>
        cases follows
        exact .here _
    | cons part rest inductionHypothesis =>
        unfold FileTree.follow at follows
        split at follows
        · rename_i dot
          subst dot
          exact .stays (inductionHypothesis follows)
        rename_i undotted
        split at follows
        · rename_i up
          subst up
          exact .climbs (inductionHypothesis follows)
        rename_i downward
        split at follows
        · contradiction
        rename_i fits
        have named : part ≠ "." ∧ part ≠ ".." := ⟨undotted, downward⟩
        dsimp only at follows
        split at follows
        · rename_i last
          obtain rfl := List.isEmpty_iff.mp last
          cases follows
          exact .arrives named (by omega)
        rename_i onward
        split at follows
        · rename_i stands
          exact .enters named (by omega) (by simpa using onward) stands
            (inductionHypothesis follows)
        · contradiction
        · contradiction
  · intro leads
    induction leads with
    | here place =>
        rfl
    | stays later inductionHypothesis | climbs later inductionHypothesis =>
        simpa [FileTree.follow] using inductionHypothesis
    | arrives named fits =>
        simp [FileTree.follow, named, Nat.not_lt.mpr fits]
    | enters named fits onward stands later inductionHypothesis =>
        simp [FileTree.follow, named, Nat.not_lt.mpr fits, onward, stands, inductionHypothesis]

/-- A path comes to the place that its parts lead to, if the system takes it for a path. -/
theorem locate_eq_ok_iff :
    tree.locate path = .ok place ↔
      path ≠ "" ∧
        '\x00' ∉ path.toList ∧
        path.utf8ByteSize ≤ longestPath ∧
        tree.Leads (tree.startOf path) (Path.parts path) place := by
  rw [← follow_eq_ok_iff]
  unfold FileTree.locate
  split
  · rename_i empty
    simp [String.isEmpty_iff.mp empty]
  · rename_i nonempty
    split
    · rename_i invalid
      simp_all
    · rename_i valid
      split
      · rename_i long
        simp [Nat.not_le.mpr long]
      · rename_i short
        simp_all

/-- A path reads the file that it leads to. -/
theorem read_eq_ok_iff :
    tree.read path = .ok content ↔
      ∃ place,
        tree.locate path = .ok place ∧
          tree.node? place = some (.file content) ∧
          Path.namesDirectory path = false := by
  unfold FileTree.read
  cases located : tree.locate path with
  | error reason =>
      simp [Bind.bind, Except.bind]
  | ok place =>
      simp only [Bind.bind, Except.bind, Except.ok.injEq, exists_eq_left']
      cases tree.node? place with
      | none =>
          simp
      | some node =>
          cases node with
          | directory =>
              simp
          | file found =>
              cases Path.namesDirectory path <;> simp

namespace Leads

/-- Parts lead to the same place in a tree with the same directories. -/
theorem same
    (leads : tree.Leads place parts final)
    (same : SameDirectories tree other) :
    other.Leads place parts final := by
  induction leads with
  | here place =>
      exact .here place
  | stays later inductionHypothesis =>
      exact .stays inductionHypothesis
  | climbs later inductionHypothesis =>
      exact .climbs inductionHypothesis
  | arrives named fits =>
      exact .arrives named fits
  | enters named fits onward stands later inductionHypothesis =>
      exact .enters named fits onward ((same.directories _).mpr stands) inductionHypothesis

/-- Single dots may be left out. -/
theorem steps (leads : tree.Leads place parts final) :
    tree.Leads place (parts.filter (· ≠ ".")) final := by
  induction leads with
  | here place =>
      exact .here place
  | stays later inductionHypothesis =>
      simpa using inductionHypothesis
  | climbs later inductionHypothesis =>
      simpa using Leads.climbs inductionHypothesis
  | arrives named fits =>
      simpa [named] using Leads.arrives named fits
  | @enters place final part rest named fits onward stands later inductionHypothesis =>
      rw [List.filter_cons_of_pos (by simpa using named.1)]
      cases others : rest.filter (· ≠ ".") with
      | nil =>
          rw [others] at inductionHypothesis
          cases inductionHypothesis
          exact .arrives named fits
      | cons next later =>
          rw [others] at inductionHypothesis
          exact .enters named fits (by simp) stands inductionHypothesis

/-- Single dots may be put in, if none is put behind the rest. -/
theorem of_steps
    (leads : tree.Leads place (parts.filter (· ≠ ".")) final)
    (last : parts.getLast? ≠ some ".") :
    tree.Leads place parts final := by
  induction parts generalizing place with
  | nil =>
      exact leads
  | cons part rest inductionHypothesis =>
      have lastOfRest : rest.getLast? ≠ some "." := by
        intro dotted
        simp [List.getLast?_cons, dotted] at last
      by_cases dot : part = "."
      · rw [List.filter_cons_of_neg (by simpa using dot)] at leads
        subst dot
        exact .stays (inductionHypothesis leads lastOfRest)
      · rw [List.filter_cons_of_pos (by simpa using dot)] at leads
        generalize othersAre : rest.filter (· ≠ ".") = others at leads
        cases leads with
        | stays later =>
            exact (dot rfl).elim
        | climbs later =>
            exact .climbs (inductionHypothesis (by rwa [othersAre]) lastOfRest)
        | arrives named fits =>
            cases ending : rest.getLast? with
            | none =>
                obtain rfl := List.getLast?_eq_none_iff.mp ending
                exact .arrives named fits
            | some final =>
                rw [List.filter_eq_nil_iff] at othersAre
                have dotted := othersAre final (List.mem_of_getLast? ending)
                simp only [decide_not, Bool.not_eq_eq_eq_not, Bool.not_true,
                  decide_eq_false_iff_not, not_not] at dotted
                exact (lastOfRest (by rw [ending, dotted])).elim
        | enters named fits onward stands later =>
            have onLeads := inductionHypothesis (by rwa [othersAre]) lastOfRest
            refine .enters named fits ?_ stands onLeads
            rintro rfl
            exact onward othersAre.symm

/-- From a directory that parts lead to, others lead on. -/
theorem append
    (leads : tree.Leads place front middle)
    (stands : tree.node? middle = some .directory)
    (onward : rest ≠ [])
    (later : tree.Leads middle rest final) :
    tree.Leads place (front ++ rest) final := by
  induction leads with
  | here place =>
      exact later
  | stays before inductionHypothesis =>
      exact .stays (inductionHypothesis stands later)
  | climbs before inductionHypothesis =>
      exact .climbs (inductionHypothesis stands later)
  | arrives named fits =>
      exact .enters named fits onward stands later
  | enters named fits between standsHere before inductionHypothesis =>
      exact .enters named fits (by simp [onward]) standsHere (inductionHypothesis stands later)

/-- Parts that end in a name lead to a place of that name. -/
theorem name
    {part : String}
    (leads : tree.Leads place (front ++ [part]) final)
    (named : part ≠ "." ∧ part ≠ "..") :
    ∃ above : Place, final = above.child part := by
  induction front generalizing place with
  | nil =>
      cases leads with
      | stays => exact (named.1 rfl).elim
      | climbs => exact (named.2 rfl).elim
      | arrives => exact ⟨place, rfl⟩
      | enters named fits onward => exact (onward rfl).elim
  | cons first rest inductionHypothesis =>
      generalize partsAre : first :: rest ++ [part] = parts at leads
      cases leads with
      | here =>
          contradiction
      | stays later | climbs later =>
          cases partsAre
          exact inductionHypothesis later
      | arrives =>
          simp at partsAre
      | enters namedFirst fits onward stands later =>
          cases partsAre
          exact inductionHypothesis later

end Leads

namespace ChangesFile

theorem sameDirectories (changes : ChangesFile tree next place) : SameDirectories tree next where
  current := changes.current
  directories := by
    intro other
    by_cases here : other = place
    · rw [here]
      exact iff_of_false changes.after changes.before
    · rw [changes.others other here]

end ChangesFile

/-- In a tree with the same directories a path leads to the same place. -/
theorem SameDirectories.locate
    (same : SameDirectories tree other)
    (located : tree.locate path = .ok place) :
    other.locate path = .ok place := by
  rw [locate_eq_ok_iff] at located ⊢
  obtain ⟨nonempty, valid, short, leads⟩ := located
  have start : other.startOf path = tree.startOf path := by
    simp [startOf, same.current]
  exact ⟨nonempty, valid, short, by rw [start]; exact leads.same same⟩

/-- A path that leads elsewhere reads what it read before. -/
theorem ChangesFile.read
    {elsewhere : Place}
    (changes : ChangesFile tree next place)
    (located : tree.locate path = .ok elsewhere)
    (apart : elsewhere ≠ place) :
    next.read path = tree.read path := by
  unfold FileTree.read
  rw [changes.sameDirectories.locate located, located]
  simp only [Bind.bind, Except.bind, changes.others elsewhere apart]

/-- Writing puts the content at the place that the path leads to. -/
theorem write_eq_ok_iff :
    tree.write path content = .ok next ↔
      ∃ place,
        tree.locate path = .ok place ∧
          tree.node? place ≠ some .directory ∧
          Path.namesDirectory path = false ∧
          next = { tree with nodes := tree.nodes.set place (.file content) } := by
  unfold FileTree.write
  cases located : tree.locate path with
  | error reason =>
      simp [Bind.bind, Except.bind]
  | ok place =>
      simp only [Bind.bind, Except.bind, Except.ok.injEq, exists_eq_left']
      cases tree.node? place with
      | none =>
          cases Path.namesDirectory path <;> simp [eq_comm]
      | some node =>
          cases node with
          | directory =>
              simp
          | file found =>
              cases Path.namesDirectory path <;> simp [eq_comm]

/-- Removing erases the file that the path leads to. -/
theorem remove_eq_ok_iff :
    tree.remove path = .ok next ↔
      ∃ place,
        tree.locate path = .ok place ∧
          (∃ content, tree.node? place = some (.file content)) ∧
          Path.namesDirectory path = false ∧
          next = { tree with nodes := tree.nodes.erase place } := by
  unfold FileTree.remove
  cases located : tree.locate path with
  | error reason =>
      simp [Bind.bind, Except.bind]
  | ok place =>
      simp only [Bind.bind, Except.bind, Except.ok.injEq, exists_eq_left']
      cases tree.node? place with
      | none =>
          simp
      | some node =>
          cases node with
          | directory =>
              simp
          | file found =>
              cases Path.namesDirectory path <;> simp [eq_comm]

/-- A place that is no directory's is not the root. -/
theorem node?_of_ne_directory
    (vacant : tree.node? place ≠ some .directory)
    (nodes : Table Place FileNode) :
    node? { tree with nodes } place = nodes.find? place := by
  have occupied : place.isEmpty = false := by
    cases empty : place.isEmpty with
    | false =>
        rfl
    | true =>
        exact (vacant (by rw [node?, if_pos empty])).elim
  simp [node?, occupied]

/-- A file put at a place that is no directory's changes the file there. -/
theorem changesFile_set
    (vacant : tree.node? place ≠ some .directory)
    (content : List UInt8) :
    ChangesFile tree { tree with nodes := tree.nodes.set place (.file content) } place where
  current := rfl
  others := by
    intro other apart
    simp [node?, Table.find?_set_of_ne _ apart]
  before := vacant
  after := by
    rw [node?_of_ne_directory vacant, Table.find?_set_self]
    simp

/-- A place that is no directory's and is vacated changes the file there. -/
theorem changesFile_erase
    (vacant : tree.node? place ≠ some .directory) :
    ChangesFile tree { tree with nodes := tree.nodes.erase place } place where
  current := rfl
  others := by
    intro other apart
    simp [node?, Table.find?_erase_of_ne _ apart]
  before := vacant
  after := by
    rw [node?_of_ne_directory vacant, Table.find?_erase_self]
    simp

/-- What was written is read back. -/
theorem read_of_write (writes : tree.write path content = .ok next) :
    next.read path = .ok content := by
  obtain ⟨place, located, vacant, toFile, rfl⟩ := write_eq_ok_iff.mp writes
  refine read_eq_ok_iff.mpr
    ⟨place, (changesFile_set vacant content).sameDirectories.locate located, ?_, toFile⟩
  rw [node?_of_ne_directory vacant, Table.find?_set_self]

/-- The bytes of a text are read as the text. -/
theorem readText_of_read
    {text : String}
    (reads : tree.read path = .ok (Text.toBytes text)) :
    tree.readText path = .ok text := by
  unfold readText
  rw [reads]
  simp only [Bind.bind, Except.bind, Text.ofBytes?_toBytes]

/-- What was removed is not there. -/
theorem read_of_remove (removes : tree.remove path = .ok next) :
    next.read path = .error .notFound := by
  obtain ⟨place, located, ⟨content, stands⟩, -, rfl⟩ := remove_eq_ok_iff.mp removes
  have vacant : tree.node? place ≠ some .directory := by
    simp [stands]
  unfold FileTree.read
  rw [(changesFile_erase vacant).sameDirectories.locate located]
  simp only [Bind.bind, Except.bind]
  rw [node?_of_ne_directory vacant, Table.find?_erase_self]

/-- A path to a file comes to the place that its steps lead to. -/
theorem locate_of_steps
    {name : List Char}
    (ends : Path.EndsIn path.toList name)
    (valid : '\x00' ∉ path.toList)
    (short : path.utf8ByteSize ≤ longestPath)
    (leads : tree.Leads (tree.startOf path) (Path.steps path) place) :
    tree.locate path = .ok place := by
  refine locate_eq_ok_iff.mpr ⟨?_, valid, short, leads.of_steps ?_⟩
  · rintro rfl
    have last := ends.names
    simp at last
  · rw [ends.parts]
    simpa using ends.ofList_ne.1

/-- A path that leads the same way leads to the same place, if it is not too long. -/
theorem locate_of_sameWay
    {first second : String}
    (way : Path.SameWay first second)
    (short : first.utf8ByteSize ≤ longestPath)
    (located : tree.locate second = .ok place) :
    tree.locate first = .ok place := by
  obtain ⟨-, valid, -, leads⟩ := locate_eq_ok_iff.mp located
  obtain ⟨name, ends, -⟩ := way.toFile
  have sameSteps : Path.steps first = Path.steps second := by
    apply (List.map_inj_right fun _ _ => String.toList_inj.mp).mp
    rw [Path.map_toList_steps, Path.map_toList_steps, way.names]
  have start : tree.startOf first = tree.startOf second := by
    rw [startOf, startOf, way.start]
  refine locate_of_steps ends ?_ short ?_
  · rw [Path.mem_iff_of_names (by decide) (by decide) way.names]
    exact valid
  · rw [start, sameSteps]
    exact leads.steps

/-- Behind a path to the current directory, a relative path leads where it leads alone. -/
theorem locate_join_current
    {root : String}
    {name : List Char}
    (ends : Path.EndsIn path.toList name)
    (relative : Path.isAbsolute path = false)
    (current : tree.locate root = .ok tree.current)
    (stands : tree.node? tree.current = some .directory)
    (short : (Path.join root path).utf8ByteSize ≤ longestPath)
    (located : tree.locate path = .ok place) :
    tree.locate (Path.join root path) = .ok place := by
  obtain ⟨nonempty, rootValid, -, rootLeads⟩ := locate_eq_ok_iff.mp current
  obtain ⟨-, valid, -, leads⟩ := locate_eq_ok_iff.mp located
  obtain ⟨front, joined, shape⟩ := Path.join_cases relative nonempty
  have sameSteps : Path.steps (Path.join root path) = Path.steps root ++ Path.steps path := by
    apply (List.map_inj_right fun _ _ => String.toList_inj.mp).mp
    rw [List.map_append, Path.map_toList_steps, Path.map_toList_steps, Path.map_toList_steps,
      Path.names_join relative]
  have onward : Path.steps path ≠ [] := by
    intro nowhere
    have last := ends.names
    simp [← Path.map_toList_steps, nowhere] at last
  have startOfPath : tree.startOf path = tree.current := by
    simp [startOf, relative]
  have startOfJoin : tree.startOf (Path.join root path) = tree.startOf root := by
    rw [startOf, startOf, Path.isAbsolute_join relative nonempty]
  refine locate_of_steps (ends.join root) ?_ short ?_
  · have frontValid : '\x00' ∉ front := by
      rcases shape with same | same <;> simp_all
    simp [joined, frontValid, valid]
  · rw [startOfPath] at leads
    rw [startOfJoin, sameSteps]
    exact rootLeads.steps.append stands onward leads.steps

/-- Paths that end in different names lead to different places. -/
theorem place_ne
    {first second : String}
    {firstName secondName : List Char}
    {firstPlace secondPlace : Place}
    (firstEnds : Path.EndsIn first.toList firstName)
    (secondEnds : Path.EndsIn second.toList secondName)
    (different : firstName ≠ secondName)
    (firstLocated : tree.locate first = .ok firstPlace)
    (secondLocated : tree.locate second = .ok secondPlace) :
    firstPlace ≠ secondPlace := by
  have below
      {path : String}
      {name : List Char}
      {place : Place}
      (ends : Path.EndsIn path.toList name)
      (located : tree.locate path = .ok place) :
      ∃ above : Place, place.toList = above.toList ++ '/' :: name := by
    obtain ⟨-, -, -, leads⟩ := locate_eq_ok_iff.mp located
    obtain ⟨front, partsAre⟩ := List.getLast?_eq_some_iff.mp ends.parts
    rw [partsAre] at leads
    obtain ⟨above, rfl⟩ := leads.name ends.ofList_ne
    exact ⟨above, by simp [Place.child]⟩
  rintro rfl
  obtain ⟨firstAbove, firstIs⟩ := below firstEnds firstLocated
  obtain ⟨secondAbove, secondIs⟩ := below secondEnds secondLocated
  exact different
    (Path.eq_of_append_slash firstEnds.unbroken secondEnds.unbroken (firstIs.symm.trans secondIs))

/-- A path with another name reads what it read before something was written. -/
theorem read_of_write_other
    {written : String}
    {name writtenName : List Char}
    {found : List UInt8}
    (writes : tree.write written content = .ok next)
    (ends : Path.EndsIn path.toList name)
    (writtenEnds : Path.EndsIn written.toList writtenName)
    (different : name ≠ writtenName)
    (reads : tree.read path = .ok found) :
    next.read path = .ok found := by
  obtain ⟨place, located, vacant, -, rfl⟩ := write_eq_ok_iff.mp writes
  obtain ⟨elsewhere, elsewhereLocated, -⟩ := read_eq_ok_iff.mp reads
  have apart : elsewhere ≠ place :=
    place_ne ends writtenEnds different elsewhereLocated located
  rw [(changesFile_set vacant content).read elsewhereLocated apart]
  exact reads

end FileTree

end LatchMutex
