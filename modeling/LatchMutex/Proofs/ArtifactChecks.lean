import LatchMutex.Matrix.Files
import LatchMutex.Proofs.FileWrites

namespace LatchMutex

/-!
# What an artifact index finds out

An index records the digests of the files that a run wrote, with their paths as
seen from a root, and it looks for a file by joining its recorded path to the root
again.  Where this leads back to the file (`FileTree.Rejoins`), the index is clean
as long as nobody touches the files, and then tells exactly which were touched.
-/

namespace Text

/-- Hexadecimal digits are in lower case already, and tell what they stand for. -/
theorem hexDigit_facts :
    ∀ digit < 16,
      (hexDigit digit).toLower = hexDigit digit ∧
        ∀ other < 16, hexDigit digit = hexDigit other → digit = other := by
  decide

@[simp] theorem fold_hex (bytes : List UInt8) : fold (hex bytes) = hex bytes := by
  rw [← String.toList_inj, fold, String.toList_map, hex, String.toList_ofList]
  induction bytes with
  | nil =>
      rfl
  | cons byte rest inductionHypothesis =>
      have bound := byte.toNat_lt
      have high := (hexDigit_facts (byte.toNat / 16) (by omega)).1
      have low := (hexDigit_facts (byte.toNat % 16) (by omega)).1
      simp [high, low, inductionHypothesis]

/-- Different bytes have different digits. -/
theorem hex_injective : Function.Injective hex := by
  intro first second same
  rw [← String.toList_inj, hex, hex, String.toList_ofList, String.toList_ofList] at same
  induction first generalizing second with
  | nil =>
      cases second with
      | nil => rfl
      | cons => contradiction
  | cons byte rest inductionHypothesis =>
      cases second with
      | nil => contradiction
      | cons other others =>
          simp only [List.flatMap_cons, List.cons_append, List.nil_append, List.cons.injEq] at same
          obtain ⟨high, low, later⟩ := same
          have bound := byte.toNat_lt
          have otherBound := other.toNat_lt
          have sameHigh := (hexDigit_facts _ (by omega)).2 _ (by omega) high
          have sameLow := (hexDigit_facts _ (by omega)).2 _ (by omega) low
          have sameByte : byte = other := by
            apply UInt8.toNat_inj.mp
            omega
          rw [sameByte, inductionHypothesis later]

end Text

/-- A file that an index lists, with what it held when it was listed. -/
structure ListedFile where
  path : String
  kind : String
  content : List UInt8

/-- The entry of a listed file. -/
def ListedFile.artifact (root : String) (file : ListedFile) : Artifact where
  path := Path.relativeTo root file.path
  kind := file.kind
  sha256 := Artifact.digest file.content
  size := some file.content.length.toUInt64

/-- What may befall a file. -/
inductive Fate where
  | untouched
  | removed
  | replaced (content : List UInt8)

namespace Fate

/-- Whether a file with a content is gone or has another digest. -/
def spoils (content : List UInt8) : Fate → Bool
  | .untouched => false
  | .removed => true
  | .replaced other => Sha256.digest other ≠ Sha256.digest content

/-- What is read of a file with a content. -/
def outcome (content : List UInt8) : Fate → Except FileError (List UInt8)
  | .untouched => .ok content
  | .removed => .error .notFound
  | .replaced other => .ok other

end Fate

namespace FileTree

/-- Let a fate befall the file at a path. -/
def befall (tree : FileTree) (path : String) : Fate → Except FileError FileTree
  | .untouched => .ok tree
  | .removed => tree.remove path
  | .replaced content => tree.write path content

/-- Let its fate befall each file of a list. -/
def undergo (tree : FileTree) (plan : List (ListedFile × Fate)) : Except FileError FileTree :=
  plan.foldlM (fun tree (file, fate) => tree.befall file.path fate) tree

/-- The path that is recorded from a root leads back to the file once it is joined to the root. -/
structure Rejoins (tree : FileTree) (root path : String) : Prop where
  fits : (Path.join root (Path.relativeTo root path)).utf8ByteSize ≤ longestPath
  /-- The root is not the file itself. -/
  inside : Path.below? root path ≠ some ""
  /-- The file is below the root, its path is absolute, or the root is the current directory. -/
  placed :
    (Path.below? root path).isSome = true ∨
      Path.isAbsolute path = true ∨
      tree.locate root = .ok tree.current ∧ tree.node? tree.current = some .directory

variable
  {tree next later : FileTree} {root path : String} {content : List UInt8} {name : List Char}
  {place : Place} {fate : Fate}

/-- A recorded path that rejoins leads to the file. -/
theorem Rejoins.locate
    (rejoins : tree.Rejoins root path)
    (ends : Path.EndsIn path.toList name)
    (located : tree.locate path = .ok place) :
    tree.locate (Path.join root (Path.relativeTo root path)) = .ok place ∧
      Path.namesDirectory (Path.join root (Path.relativeTo root path)) = false := by
  have fits := rejoins.fits
  cases below : Path.below? root path with
  | some rest =>
      have recorded : Path.relativeTo root path = rest := by
        simp [Path.relativeTo, below]
      have inside : rest ≠ "" := by
        rintro rfl
        exact rejoins.inside below
      have way := Path.sameWay_join_below ends below inside
      rw [recorded] at fits ⊢
      obtain ⟨last, joinedEnds, -⟩ := way.toFile
      exact ⟨locate_of_sameWay way fits located, joinedEnds.namesDirectory⟩
  | none =>
      have recorded : Path.relativeTo root path = path := by
        simp [Path.relativeTo, below]
      rw [recorded] at fits ⊢
      refine ⟨?_, (ends.join root).namesDirectory⟩
      cases absolute : Path.isAbsolute path with
      | true =>
          rw [Path.join_of_isAbsolute absolute]
          exact located
      | false =>
          rcases rejoins.placed with inRoot | isAbsolute | ⟨current, stands⟩
          · simp [below] at inRoot
          · simp [absolute] at isAbsolute
          · exact locate_join_current ends absolute current stands fits located

/-- So it reads what the path itself reads. -/
theorem Rejoins.read
    (rejoins : tree.Rejoins root path)
    (ends : Path.EndsIn path.toList name)
    (located : tree.locate path = .ok place) :
    tree.read (Path.join root (Path.relativeTo root path)) = tree.read path := by
  obtain ⟨joinLocated, toFile⟩ := rejoins.locate ends located
  simp [FileTree.read, joinLocated, located, toFile, ends.namesDirectory]

/-- A recorded path rejoins in a tree with the same directories. -/
theorem Rejoins.same
    (rejoins : tree.Rejoins root path)
    (same : SameDirectories tree later) :
    later.Rejoins root path where
  fits := rejoins.fits
  inside := rejoins.inside
  placed := by
    rcases rejoins.placed with inRoot | absolute | ⟨current, stands⟩
    · exact .inl inRoot
    · exact .inr (.inl absolute)
    · refine .inr (.inr ⟨?_, ?_⟩)
      · rw [same.current]
        exact same.locate current
      · rw [same.current]
        exact (same.directories _).mpr stands

/-- A fate befalls a file that can be read, changes that file at most and has its outcome. -/
theorem befall_of_read
    (reads : tree.read path = .ok content)
    (fate : Fate) :
    ∃ place next,
      tree.locate path = .ok place ∧
        tree.befall path fate = .ok next ∧
        SameDirectories tree next ∧
        next.read path = fate.outcome content ∧
        ∀ other elsewhere,
          tree.locate other = .ok elsewhere →
          elsewhere ≠ place →
          next.read other = tree.read other := by
  obtain ⟨place, located, stands, toFile⟩ := read_eq_ok_iff.mp reads
  have vacant : tree.node? place ≠ some .directory := by
    simp [stands]
  refine ⟨place, ?_⟩
  cases fate with
  | untouched =>
      exact ⟨tree, located, rfl, .refl tree, reads, fun _ _ _ _ => rfl⟩
  | removed =>
      have removes := remove_eq_ok_iff.mpr ⟨place, located, ⟨content, stands⟩, toFile, rfl⟩
      have changes := changesFile_erase vacant
      exact ⟨_, located, removes, changes.sameDirectories, read_of_remove removes,
        fun _ _ otherLocated apart => changes.read otherLocated apart⟩
  | replaced other =>
      have writes :
          tree.write path other = .ok { tree with nodes := tree.nodes.set place (.file other) } :=
        write_eq_ok_iff.mpr ⟨place, located, vacant, toFile, rfl⟩
      have changes := changesFile_set vacant other
      exact ⟨_, located, writes, changes.sameDirectories, read_of_write writes,
        fun _ _ otherLocated apart => changes.read otherLocated apart⟩

/-- Files that lead to different places, each with the content on record. -/
structure Holds (tree : FileTree) (listed : List ListedFile) : Prop where
  reads : ∀ file ∈ listed, tree.read file.path = .ok file.content
  apart :
    listed.Pairwise fun first second =>
      ∀ firstPlace secondPlace,
        tree.locate first.path = .ok firstPlace →
        tree.locate second.path = .ok secondPlace →
        firstPlace ≠ secondPlace

/-- Every plan for the files of a list can be carried out, and each file has its outcome. -/
theorem undergo_of_holds
    {plan : List (ListedFile × Fate)}
    (holds : tree.Holds (plan.map Prod.fst)) :
    ∃ later,
      tree.undergo plan = .ok later ∧
        SameDirectories tree later ∧
        (∀ step ∈ plan, later.read step.1.path = step.2.outcome step.1.content) ∧
        ∀ other elsewhere,
          tree.locate other = .ok elsewhere →
          (∀ step ∈ plan, ∀ place, tree.locate step.1.path = .ok place → elsewhere ≠ place) →
          later.read other = tree.read other := by
  induction plan generalizing tree with
  | nil =>
      exact ⟨tree, rfl, .refl tree, by simp, fun _ _ _ _ => rfl⟩
  | cons step rest inductionHypothesis =>
      obtain ⟨file, fate⟩ := step
      have reads := holds.reads
      have apart := holds.apart
      rw [List.map_cons, List.forall_mem_cons] at reads
      rw [List.map_cons, List.pairwise_cons] at apart
      obtain ⟨place, middle, located, befalls, same, outcome, others⟩ :=
        befall_of_read reads.1 fate
      have middleHolds : middle.Holds (rest.map Prod.fst) := by
        refine ⟨?_, apart.2.imp fun {first second} apart firstPlace secondPlace one two =>
          apart firstPlace secondPlace (same.symm.locate one) (same.symm.locate two)⟩
        intro later member
        obtain ⟨laterPlace, laterLocated, -⟩ := read_eq_ok_iff.mp (reads.2 later member)
        have different := apart.1 later member place laterPlace located laterLocated
        rw [others _ _ laterLocated (Ne.symm different)]
        exact reads.2 later member
      obtain ⟨later, undergoes, sameLater, outcomes, keeps⟩ := inductionHypothesis middleHolds
      refine ⟨later, ?_, same.trans sameLater, ?_, ?_⟩
      · change (tree.befall file.path fate >>= fun middle => middle.undergo rest) = .ok later
        change tree.befall file.path fate = .ok middle at befalls
        rw [befalls]
        exact undergoes
      · rw [List.forall_mem_cons]
        refine ⟨?_, outcomes⟩
        rw [← outcome]
        apply keeps _ _ (same.locate located)
        intro other member otherPlace otherLocated
        exact apart.1 other.1 (List.mem_map_of_mem member) place otherPlace located
          (same.symm.locate otherLocated)
      · intro other elsewhere otherLocated distinct
        rw [List.forall_mem_cons] at distinct
        rw [keeps _ _ (same.locate otherLocated) fun step member stepPlace stepLocated =>
          distinct.2 step member stepPlace (same.symm.locate stepLocated)]
        exact others _ _ otherLocated (distinct.1 place located)

end FileTree

namespace ListedFile

variable {file : ListedFile} {root : String}

/-- The entry of a file is matched by the contents with the digest of its own. -/
theorem isMatchedBy_artifact (file : ListedFile) (root : String) (content : List UInt8) :
    (file.artifact root).isMatchedBy content =
      decide (Sha256.digest content = Sha256.digest file.content) := by
  rw [Artifact.isMatchedBy, artifact, Artifact.digest, Artifact.digest, Text.fold_hex]
  rw [decide_eq_decide, Text.hex_injective.eq_iff, eq_comm]

/-- The entry of a file is stale exactly where the fate of the file has spoiled it. -/
theorem isStale_artifact
    {later : FileTree}
    {name : List Char}
    {place : Place}
    {fate : Fate}
    (rejoins : later.Rejoins root file.path)
    (ends : Path.EndsIn file.path.toList name)
    (located : later.locate file.path = .ok place)
    (outcome : later.read file.path = fate.outcome file.content) :
    (file.artifact root).isStale later root = fate.spoils file.content := by
  have recorded : (file.artifact root).path = Path.relativeTo root file.path := rfl
  rw [Artifact.isStale, recorded, rejoins.read ends located, outcome]
  cases fate with
  | untouched =>
      simp [Fate.outcome, Fate.spoils, isMatchedBy_artifact]
  | removed =>
      rfl
  | replaced content =>
      simp [Fate.outcome, Fate.spoils, isMatchedBy_artifact]

end ListedFile

namespace ArtifactIndex

variable {index : ArtifactIndex} {saved : FileTree} {root : String} {listed : List ListedFile}

/-- Of files that are untouched no entry is stale. -/
theorem stale_of_holds
    (lists : index.artifacts = listed.map fun file => file.artifact root)
    (holds : saved.Holds listed)
    (rejoin : ∀ file ∈ listed, saved.Rejoins root file.path)
    (toFiles : ∀ file ∈ listed, ∃ name, Path.EndsIn file.path.toList name) :
    index.stale saved root = [] := by
  rw [stale, lists, List.map_eq_nil_iff, List.filter_eq_nil_iff]
  intro artifact member
  obtain ⟨file, listedFile, rfl⟩ := List.mem_map.mp member
  obtain ⟨name, ends⟩ := toFiles file listedFile
  have reads := holds.reads file listedFile
  obtain ⟨place, located, -⟩ := FileTree.read_eq_ok_iff.mp reads
  have fresh : (file.artifact root).isStale saved root = Fate.untouched.spoils file.content :=
    ListedFile.isStale_artifact (rejoin file listedFile) ends located reads
  rw [fresh]
  simp [Fate.spoils]

/-- Whatever befalls the files of an index, exactly the entries of the spoiled ones are stale. -/
theorem stale_of_undergo
    {plan : List (ListedFile × Fate)}
    (lists : index.artifacts = listed.map fun file => file.artifact root)
    (holds : saved.Holds listed)
    (rejoin : ∀ file ∈ listed, saved.Rejoins root file.path)
    (toFiles : ∀ file ∈ listed, ∃ name, Path.EndsIn file.path.toList name)
    (planned : plan.map Prod.fst = listed) :
    ∃ later,
      saved.undergo plan = .ok later ∧
        index.stale later root =
          (plan.filter fun (file, fate) => fate.spoils file.content).map fun (file, _) =>
            Path.relativeTo root file.path := by
  subst planned
  obtain ⟨later, undergoes, same, outcomes, -⟩ := FileTree.undergo_of_holds holds
  refine ⟨later, undergoes, ?_⟩
  rw [stale, lists, List.map_map, List.filter_map, List.map_map]
  have spoiled :
      ∀ step ∈ plan,
        (step.1.artifact root).isStale later root = step.2.spoils step.1.content := by
    intro step member
    have listedFile : step.1 ∈ plan.map Prod.fst := List.mem_map_of_mem member
    obtain ⟨name, ends⟩ := toFiles step.1 listedFile
    obtain ⟨place, located, -⟩ := FileTree.read_eq_ok_iff.mp (holds.reads step.1 listedFile)
    exact ListedFile.isStale_artifact ((rejoin step.1 listedFile).same same) ends
      (same.locate located) (outcomes step member)
  exact congrArg (List.map _) (List.filter_congr spoiled)

/-- A file that is added was read, and its entry is behind the others. -/
theorem addFile_eq_ok_iff
    {files : FileTree}
    {path kind : String}
    {added : Artifact × ArtifactIndex} :
    index.addFile files root path kind = .ok added ↔
      ∃ content,
        files.read path = .ok content ∧
          added =
            (ListedFile.artifact root ⟨path, kind, content⟩,
              index.push (ListedFile.artifact root ⟨path, kind, content⟩)) := by
  unfold addFile
  cases files.read path with
  | error reason =>
      simp
  | ok content =>
      simp [ListedFile.artifact, eq_comm]

end ArtifactIndex

namespace FileAction

variable {Value Next : Type} {tree next : FileTree}

/-- An action that goes through has gone through in both of its parts. -/
theorem of_bind
    {action : FileAction Value}
    {continuation : Value → FileAction Next}
    {result : Next}
    (ran : (action >>= continuation).run.run tree = (.ok result, next)) :
    ∃ value between,
      action.run.run tree = (.ok value, between) ∧
        (continuation value).run.run between = (.ok result, next) := by
  rcases first : action.run.run tree with ⟨failure | value, between⟩
  · rw [ExceptT.run_bind, StateT.run_bind, first] at ran
    cases ran
  · rw [ExceptT.run_bind, StateT.run_bind, first] at ran
    exact ⟨value, between, rfl, ran⟩

theorem writeText_of_ok
    {path text : String}
    (ran : (writeText path text).run.run tree = (.ok (), next)) :
    tree.write path (Text.toBytes text) = .ok next := by
  obtain ⟨_, _, got, ran⟩ := of_bind ran
  cases got
  change tree.writeText path text = .ok next
  cases writes : tree.writeText path text with
  | error reason =>
      rw [writes] at ran
      cases ran
  | ok written =>
      rw [writes] at ran
      cases ran
      rfl

theorem ofExcept_of_ok
    {outcome : Except Failure Value}
    {value : Value}
    (ran : (ofExcept outcome).run.run tree = (.ok value, next)) :
    outcome = .ok value ∧ next = tree := by
  cases outcome with
  | error failure =>
      cases ran
  | ok found =>
      cases ran
      exact ⟨rfl, rfl⟩

end FileAction

namespace MatrixReport

/-- A log and a report are written, read back and listed, and then the index is written. -/
theorem save_of_ok
    {report : MatrixReport}
    {now : Moment}
    {root output stem run : String}
    {tree saved : FileTree}
    {index : ArtifactIndex}
    (saves : (report.save now root output stem run).run.run tree = (.ok index, saved)) :
    ∃ (created logged reported : FileTree) (emitted : LogEmitter) (log content : List UInt8),
      ({ bead := report.bead, run } : LogEmitter).emitAll
          (report.entries now (Path.relativeTo root (reportPath output stem))) =
        (.ok (), emitted) ∧
        created.write (logPath output stem) (Text.toBytes emitted.sink.written) = .ok logged ∧
        logged.write (reportPath output stem) (Text.toBytes report.text) = .ok reported ∧
        reported.read (logPath output stem) = .ok log ∧
        reported.read (reportPath output stem) = .ok content ∧
        index.artifacts =
          [ListedFile.artifact root ⟨logPath output stem, "log", log⟩,
            ListedFile.artifact root ⟨reportPath output stem, "report", content⟩] ∧
        reported.write (indexPath output stem) (Text.toBytes index.text) = .ok saved := by
  unfold save at saves
  obtain ⟨_, made, -, saves⟩ := FileAction.of_bind saves
  obtain ⟨_, logged, logs, saves⟩ := FileAction.of_bind saves
  obtain ⟨_, reported, reports, saves⟩ := FileAction.of_bind saves
  obtain ⟨_, _, got, saves⟩ := FileAction.of_bind saves
  cases got
  obtain ⟨_, _, addsLog, saves⟩ := FileAction.of_bind saves
  obtain ⟨addsLog, rfl⟩ := FileAction.ofExcept_of_ok addsLog
  obtain ⟨log, readsLog, rfl⟩ := ArtifactIndex.addFile_eq_ok_iff.mp addsLog
  obtain ⟨_, _, got, saves⟩ := FileAction.of_bind saves
  cases got
  obtain ⟨_, _, addsReport, saves⟩ := FileAction.of_bind saves
  obtain ⟨addsReport, rfl⟩ := FileAction.ofExcept_of_ok addsReport
  obtain ⟨content, readsReport, rfl⟩ := ArtifactIndex.addFile_eq_ok_iff.mp addsReport
  obtain ⟨_, _, indexes, saves⟩ := FileAction.of_bind saves
  cases saves
  unfold LogEmitter.writeLog at logs
  obtain ⟨_, created, -, logs⟩ := FileAction.of_bind logs
  obtain ⟨_, _, writes, logs⟩ := FileAction.of_bind logs
  obtain ⟨emitted, rfl⟩ := FileAction.ofExcept_of_ok logs
  exact ⟨created, _, _, _, log, content, Prod.ext emitted rfl,
    FileAction.writeText_of_ok writes, FileAction.writeText_of_ok reports, readsLog, readsReport,
    rfl, FileAction.writeText_of_ok indexes⟩

/-- Endings of which neither ends in the other end different names. -/
theorem append_ne
    {first second : List Char}
    (unlike : ¬ first <:+ second ∧ ¬ second <:+ first)
    (name other : List Char) :
    name ++ first ≠ other ++ second := by
  intro same
  have firstEnds : first <:+ name ++ first := List.suffix_append name first
  have secondEnds : second <:+ name ++ first := by
    rw [same]
    exact List.suffix_append other second
  rcases List.suffix_or_suffix_of_suffix firstEnds secondEnds with inSecond | inFirst
  · exact unlike.1 inSecond
  · exact unlike.2 inFirst

/-- The path of an output file ends in a name with its ending. -/
theorem endsIn_join
    (ending : String)
    (unbroken : '/' ∉ ending.toList)
    (long : 2 < ending.toList.length)
    (output stem : String) :
    ∃ name, Path.EndsIn (Path.join output (stem ++ ending)).toList (name ++ ending.toList) := by
  obtain ⟨name, ends⟩ := Path.endsIn_append unbroken long stem.toList
  exact ⟨name, Path.EndsIn.join (by simpa using ends) output⟩

/-- Log, report and index have different names. -/
theorem exists_names (output stem : String) :
    ∃ log report index : List Char,
      Path.EndsIn (logPath output stem).toList log ∧
        Path.EndsIn (reportPath output stem).toList report ∧
        Path.EndsIn (indexPath output stem).toList index ∧
        log ≠ report ∧ log ≠ index ∧ report ≠ index := by
  obtain ⟨log, logEnds⟩ := endsIn_join ".log.jsonl" (by decide) (by decide) output stem
  obtain ⟨report, reportEnds⟩ := endsIn_join ".report.json" (by decide) (by decide) output stem
  obtain ⟨index, indexEnds⟩ := endsIn_join ".artifacts.json" (by decide) (by decide) output stem
  exact ⟨_, _, _, logEnds, reportEnds, indexEnds, append_ne (by decide) _ _,
    append_ne (by decide) _ _, append_ne (by decide) _ _⟩

/-- The listed files are there once the index is written, each with what was listed. -/
theorem holds_of_save
    {report : MatrixReport}
    {now : Moment}
    {root output stem run : String}
    {tree saved : FileTree}
    {index : ArtifactIndex}
    (saves : (report.save now root output stem run).run.run tree = (.ok index, saved)) :
    ∃ listed : List ListedFile,
      listed.map ListedFile.path = [logPath output stem, reportPath output stem] ∧
        index.artifacts = listed.map (ListedFile.artifact root) ∧
        saved.Holds listed := by
  obtain ⟨_, _, reported, _, log, content, -, -, -, readsLog, readsReport, lists, writes⟩ :=
    save_of_ok saves
  obtain ⟨logName, reportName, indexName, logEnds, reportEnds, indexEnds, logReport, logIndex,
    reportIndex⟩ := exists_names output stem
  refine ⟨[⟨logPath output stem, "log", log⟩, ⟨reportPath output stem, "report", content⟩],
    rfl, lists, ?_, ?_⟩
  · rw [List.forall_mem_cons, List.forall_mem_singleton]
    exact
      ⟨FileTree.read_of_write_other writes logEnds indexEnds logIndex readsLog,
        FileTree.read_of_write_other writes reportEnds indexEnds reportIndex readsReport⟩
  · rw [List.pairwise_pair]
    intro firstPlace secondPlace firstLocated secondLocated
    exact FileTree.place_ne logEnds reportEnds logReport firstLocated secondLocated

/-- A fresh index is clean, and it tells which of its files are gone or have other contents, if
the recorded paths lead back to the files. -/
theorem save_verifies
    {report : MatrixReport}
    {now : Moment}
    {root output stem run : String}
    {tree saved : FileTree}
    {index : ArtifactIndex}
    (saves : (report.save now root output stem run).run.run tree = (.ok index, saved)) :
    ∃ listed : List ListedFile,
      listed.map ListedFile.path = [logPath output stem, reportPath output stem] ∧
        index.artifacts = listed.map (ListedFile.artifact root) ∧
        (∀ file ∈ listed, saved.read file.path = .ok file.content) ∧
        (saved.Rejoins root (logPath output stem) →
          saved.Rejoins root (reportPath output stem) →
          index.stale saved root = [] ∧
            ∀ plan : List (ListedFile × Fate),
              plan.map Prod.fst = listed →
                ∃ later,
                  saved.undergo plan = .ok later ∧
                    index.stale later root =
                      (plan.filter fun (file, fate) => fate.spoils file.content).map
                        fun (file, _) => Path.relativeTo root file.path) := by
  obtain ⟨listed, paths, lists, holds⟩ := holds_of_save saves
  refine ⟨listed, paths, lists, holds.reads, fun logRejoins reportRejoins => ?_⟩
  obtain ⟨logName, reportName, -, logEnds, reportEnds, -⟩ := exists_names output stem
  have facts :
      ∀ file ∈ listed,
        saved.Rejoins root file.path ∧ ∃ name, Path.EndsIn file.path.toList name := by
    intro file member
    have inPaths : file.path ∈ listed.map ListedFile.path := List.mem_map_of_mem member
    rw [paths, List.mem_cons, List.mem_singleton] at inPaths
    rcases inPaths with same | same <;> rw [same]
    · exact ⟨logRejoins, logName, logEnds⟩
    · exact ⟨reportRejoins, reportName, reportEnds⟩
  have rejoin := fun file member => (facts file member).1
  have toFiles := fun file member => (facts file member).2
  exact ⟨ArtifactIndex.stale_of_holds lists holds rejoin toFiles,
    fun plan planned => ArtifactIndex.stale_of_undergo lists holds rejoin toFiles planned⟩

/-- With an output directory below an absolute root, the report is told to be gone, and a log that
was replaced by the same log is fresh. -/
theorem save_verifies_reportRemoved :
    ∃ (index : ArtifactIndex) (saved later : FileTree) (log report : ListedFile),
      ((ofCases .strict []).save default "/r" "/r/o" "s" "x").run.run {} = (.ok index, saved) ∧
        log.path = "/r/o/s.log.jsonl" ∧
        report.path = "/r/o/s.report.json" ∧
        index.stale saved "/r" = [] ∧
        saved.undergo [(log, .replaced log.content), (report, .removed)] = .ok later ∧
        index.stale later "/r" = ["o/s.report.json"] := by
  have succeeds :
      (((ofCases .strict []).save default "/r" "/r/o" "s" "x").run.run {}).1.isOk = true := by
    decide +kernel
  rcases saves : ((ofCases .strict []).save default "/r" "/r/o" "s" "x").run.run {} with
    ⟨failure | index, saved⟩
  · rw [saves] at succeeds
    contradiction
  obtain ⟨listed, paths, -, -, verifies⟩ := save_verifies saves
  have logIs : logPath "/r/o" "s" = "/r/o/s.log.jsonl" := by decide
  have reportIs : reportPath "/r/o" "s" = "/r/o/s.report.json" := by decide
  rw [logIs, reportIs] at paths verifies
  obtain ⟨fresh, spoiled⟩ :=
    verifies ⟨by decide, by decide, .inl (by decide)⟩ ⟨by decide, by decide, .inl (by decide)⟩
  obtain ⟨log, _, rfl, logPlaced, paths⟩ := List.map_eq_cons_iff.mp paths
  obtain ⟨report, _, rfl, reportPlaced, nothing⟩ := List.map_eq_cons_iff.mp paths
  obtain rfl := List.map_eq_nil_iff.mp nothing
  obtain ⟨later, undergoes, stale⟩ :=
    spoiled [(log, .replaced log.content), (report, .removed)] rfl
  refine ⟨index, saved, later, log, report, rfl, logPlaced, reportPlaced, fresh, undergoes, ?_⟩
  have recorded : Path.relativeTo "/r" "/r/o/s.report.json" = "o/s.report.json" := by decide
  simpa [Fate.spoils, reportPlaced, recorded] using stale

/-- An index of files that are not below its root reads them elsewhere, so it is stale at once,
even though the files are what it says they are. -/
theorem elsewhere_stale :
    ∃ (index : ArtifactIndex) (saved : FileTree) (listed : List ListedFile),
      ((ofCases .strict []).save default "r" "o" "s" "x").run.run {} = (.ok index, saved) ∧
        index.artifacts = listed.map (ListedFile.artifact "r") ∧
        (∀ file ∈ listed, saved.read file.path = .ok file.content) ∧
        index.stale saved "r" = ["o/s.log.jsonl", "o/s.report.json"] := by
  have stale :
      (((ofCases .strict []).save default "r" "o" "s" "x").run.run {}).1.toOption.map
          (fun index =>
            index.stale (((ofCases .strict []).save default "r" "o" "s" "x").run.run {}).2 "r") =
        some ["o/s.log.jsonl", "o/s.report.json"] := by
    decide +kernel
  rcases saves : ((ofCases .strict []).save default "r" "o" "s" "x").run.run {} with
    ⟨failure | index, saved⟩
  · rw [saves] at stale
    contradiction
  obtain ⟨listed, -, lists, holds⟩ := holds_of_save saves
  rw [saves] at stale
  exact ⟨index, saved, listed, rfl, lists, holds.reads, Option.some.inj stale⟩

end MatrixReport

end LatchMutex
