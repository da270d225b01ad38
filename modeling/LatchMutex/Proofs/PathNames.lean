import Mathlib.Data.List.TakeDrop
import Mathlib.Data.List.TakeWhile
import LatchMutex.Files.Path

namespace LatchMutex

/-!
# The names in a path

Empty parts and single dots lead nowhere, so what is left of a path are the names
between its slashes.  What `below?` leaves of a path are the names behind those of
the directory, and `join` puts the names of the directory in front again.
-/

namespace Path

/-- Whether a part leads somewhere. -/
def isName (part : List Char) : Bool :=
  part ≠ [] ∧ part ≠ ['.']

/-- The parts of a text that lead somewhere. -/
def names (text : List Char) : List (List Char) :=
  (partsFrom [] text).filter isName

/-- The text ends in a name that may be that of a file. -/
structure EndsIn (text name : List Char) : Prop where
  unbroken : '/' ∉ name
  named : isName name = true
  downward : name ≠ ['.', '.']
  last : text = name ∨ ∃ front, text = front ++ '/' :: name

/-- A slash ends the part before it. -/
theorem partsFrom_append_slash (part front behind : List Char) :
    partsFrom part (front ++ '/' :: behind) = partsFrom part front ++ partsFrom [] behind := by
  fun_induction partsFrom part front with
  | case1 part =>
      rfl
  | case2 part rest inductionHypothesis =>
      simp [partsFrom, inductionHypothesis]
  | case3 part character rest broken inductionHypothesis =>
      rw [List.cons_append, partsFrom, inductionHypothesis]
      exact broken

/-- A text without a slash is one part. -/
theorem partsFrom_of_unbroken
    {text : List Char}
    (unbroken : '/' ∉ text)
    (part : List Char) :
    partsFrom part text = [part.reverse ++ text] := by
  induction text generalizing part with
  | nil =>
      simp [partsFrom]
  | cons character rest inductionHypothesis =>
      simp only [List.mem_cons, not_or] at unbroken
      rw [partsFrom, inductionHypothesis unbroken.2]
      · simp
      · exact Ne.symm unbroken.1

/-- No part has a slash in it. -/
theorem unbroken_of_mem_partsFrom
    {part text found : List Char}
    (unbroken : '/' ∉ part)
    (member : found ∈ partsFrom part text) :
    '/' ∉ found := by
  fun_induction partsFrom part text with
  | case1 part =>
      obtain rfl := List.mem_singleton.mp member
      simpa using unbroken
  | case2 part rest inductionHypothesis =>
      rcases List.mem_cons.mp member with rfl | later
      · simpa using unbroken
      · exact inductionHypothesis (by simp) later
  | case3 part character rest broken inductionHypothesis =>
      apply inductionHypothesis _ member
      intro slash
      rcases List.mem_cons.mp slash with rfl | before
      · exact broken rfl
      · exact unbroken before

@[simp] theorem names_nil : names [] = [] :=
  rfl

theorem names_append_slash (front behind : List Char) :
    names (front ++ '/' :: behind) = names front ++ names behind := by
  rw [names, partsFrom_append_slash, List.filter_append]
  rfl

@[simp] theorem names_slash (behind : List Char) : names ('/' :: behind) = names behind := by
  simpa using names_append_slash [] behind

theorem names_of_unbroken {text : List Char} (unbroken : '/' ∉ text) :
    names text = if isName text then [text] else [] := by
  rw [names, partsFrom_of_unbroken unbroken]
  simp [List.filter_cons]

@[simp] theorem names_dot : names ['.'] = [] :=
  rfl

@[simp] theorem names_dot_slash (behind : List Char) :
    names ('.' :: '/' :: behind) = names behind := by
  simpa using names_append_slash ['.'] behind

@[simp] theorem names_skip (text : List Char) : names (skip text) = names text := by
  fun_induction skip text with
  | case1 rest inductionHypothesis | case2 rest inductionHypothesis =>
      simpa using inductionHypothesis
  | case3 =>
      rfl
  | case4 text =>
      rfl

/-- What is trimmed off at the end leads nowhere. -/
theorem names_trimReversed (reversed : List Char) :
    names (trimReversed reversed).reverse = names reversed.reverse := by
  fun_induction trimReversed reversed with
  | case1 rest inductionHypothesis =>
      rw [inductionHypothesis, List.reverse_cons, names_append_slash, names_nil, List.append_nil]
  | case2 rest inductionHypothesis =>
      have dotted : ('.' :: '/' :: rest).reverse = rest.reverse ++ '/' :: ['.'] := by
        simp
      rw [inductionHypothesis, dotted, names_append_slash, names_dot, List.append_nil]
  | case3 =>
      rfl

@[simp] theorem names_trimEnd (text : List Char) : names (trimEnd text) = names text := by
  rw [trimEnd, names_trimReversed, List.reverse_reverse]

/-- Every text ends in a part without a slash. -/
theorem exists_last (text : List Char) :
    ∃ name, '/' ∉ name ∧ (text = name ∨ ∃ front, text = front ++ '/' :: name) := by
  induction text with
  | nil =>
      exact ⟨[], by simp, .inl rfl⟩
  | cons character rest inductionHypothesis =>
      obtain ⟨name, unbroken, rfl | ⟨front, rfl⟩⟩ := inductionHypothesis
      · by_cases slash : character = '/'
        · exact ⟨rest, unbroken, .inr ⟨[], by simp [slash]⟩⟩
        · exact ⟨character :: rest, by simp [unbroken, Ne.symm slash], .inl rfl⟩
      · exact ⟨name, unbroken, .inr ⟨character :: front, rfl⟩⟩

/-- What is cut off in front has no slash, and a slash is where the cut is. -/
theorem cut_cases (text : List Char) :
    ∃ front behind,
      cut text = (front, behind) ∧
        '/' ∉ front ∧
        text = front ++ behind ∧
        (behind = [] ∨ ∃ rest, behind = '/' :: rest) := by
  refine ⟨_, _, List.span_eq_takeWhile_dropWhile _ text, ?_,
    List.takeWhile_append_dropWhile.symm, ?_⟩
  · intro slash
    simpa using List.mem_takeWhile_imp slash
  · cases behind : text.dropWhile fun character => character ≠ '/' with
    | nil =>
        exact .inl rfl
    | cons character rest =>
        have stops :=
          List.head_dropWhile_not (fun character => decide (character ≠ '/'))
            (by rw [behind]; simp)
        simp only [behind, List.head_cons] at stops
        exact .inr ⟨rest, by simpa using stops⟩

/-- The names of a text that is cut are those in front and those behind. -/
theorem names_cut {text front behind : List Char} (cuts : cut text = (front, behind)) :
    names text = names front ++ names behind := by
  obtain ⟨_, _, sameCut, -, rfl, ends⟩ := cut_cases text
  cases cuts.symm.trans sameCut
  rcases ends with rfl | ⟨rest, rfl⟩
  · simp
  · rw [names_append_slash, names_slash]

/-- What is left behind given names is what follows them. -/
theorem names_stripParts
    {parts : List String}
    {text rest : List Char}
    (named : ∀ part ∈ parts, names part.toList = [part.toList])
    (strips : stripParts parts text = some rest) :
    names text = parts.map String.toList ++ names rest := by
  induction parts generalizing text with
  | nil =>
      cases strips
      rfl
  | cons part others inductionHypothesis =>
      rw [List.forall_mem_cons] at named
      unfold stripParts at strips
      split at strips
      rename_i front behind cuts
      split at strips
      · rename_i same
        have later := inductionHypothesis named.2 strips
        rw [← names_skip, names_cut cuts, same, named.1, later]
        rfl
      · contradiction

/-- The names of a path, as texts. -/
def steps (path : String) : List String :=
  (parts path).filter fun part => part ≠ "."

/-- The steps of a path are its names. -/
theorem map_toList_steps (path : String) : (steps path).map String.toList = names path.toList := by
  have dot (part : List Char) : String.ofList part = "." ↔ part = ['.'] := by
    rw [← String.toList_inj, String.toList_ofList]
    rfl
  have texts : String.toList ∘ String.ofList = id := by
    funext part
    exact String.toList_ofList
  simp only [steps, parts, List.filter_map, List.map_map, texts, List.map_id, List.filter_filter,
    names]
  congr 1
  funext part
  rw [Bool.eq_iff_iff]
  simp only [Function.comp_apply, Bool.and_eq_true, decide_eq_true_eq, Bool.not_eq_eq_eq_not,
    Bool.not_true, List.isEmpty_eq_false_iff, isName, ne_eq, dot]
  exact and_comm

/-- Every step of a path leads somewhere and has no slash. -/
theorem names_of_mem_steps
    {path part : String}
    (member : part ∈ steps path) :
    names part.toList = [part.toList] := by
  have listed : part.toList ∈ names path.toList := by
    rw [← map_toList_steps]
    exact List.mem_map_of_mem member
  obtain ⟨inside, named⟩ := List.mem_filter.mp listed
  rw [names_of_unbroken (unbroken_of_mem_partsFrom (by simp) inside), if_pos named]

/-- A text starts with the part that is cut off. -/
theorem partsFrom_cut {text front behind : List Char} (cuts : cut text = (front, behind)) :
    ∃ others, partsFrom [] text = front :: others := by
  obtain ⟨_, _, sameCut, unbroken, rfl, ends⟩ := cut_cases text
  cases cuts.symm.trans sameCut
  rcases ends with rfl | ⟨rest, rfl⟩
  · exact ⟨[], by simp [partsFrom_of_unbroken unbroken]⟩
  · exact ⟨partsFrom [] rest, by simp [partsFrom_append_slash, partsFrom_of_unbroken unbroken]⟩

/-- Only the empty path has no parts and does not start at the root. -/
theorem eq_empty_of_parts
    {path : String}
    (relative : isAbsolute path = false)
    (empty : parts path = []) :
    path = "" := by
  obtain ⟨front, behind, cuts, -, whole, ends⟩ := cut_cases path.toList
  obtain ⟨others, first⟩ := partsFrom_cut cuts
  have unnamed : front = [] := by
    by_contra nonempty
    simp [parts, first, nonempty] at empty
  rw [unnamed, List.nil_append] at whole
  rcases ends with rfl | ⟨rest, rfl⟩
  · exact String.toList_inj.mp whole
  · simp [isAbsolute, whole] at relative

/-- A path starts with the part that is cut off, and with a slash if that is empty. -/
theorem isAbsolute_of_cut
    {path : String}
    {front behind : List Char}
    (cuts : cut path.toList = (front, behind))
    (nonempty : front ≠ []) :
    isAbsolute path = false := by
  obtain ⟨_, _, sameCut, unbroken, whole, -⟩ := cut_cases path.toList
  cases cuts.symm.trans sameCut
  cases front with
  | nil =>
      exact (nonempty rfl).elim
  | cons character rest =>
      simp only [List.mem_cons, not_or] at unbroken
      simp [isAbsolute, whole, Ne.symm unbroken.1]

/-- What is below a directory is what follows its names, skipped into and trimmed. -/
theorem below?_cases
    {directory path rest : String}
    (below : below? directory path = some rest) :
    directory = "" ∧ rest = String.ofList (trimEnd path.toList) ∨
      directory ≠ "" ∧
        isAbsolute path = isAbsolute directory ∧
        ∃ left,
          names path.toList = names directory.toList ++ names left ∧
            rest = String.ofList (trimEnd (skip left)) := by
  have named : ∀ part ∈ steps directory, names part.toList = [part.toList] :=
    fun part member => names_of_mem_steps member
  have directoryNames := map_toList_steps directory
  unfold below? at below
  split at below
  · rename_i rooted
    split at below
    · rename_i absolute
      right
      obtain ⟨left, strips, rfl⟩ := Option.map_eq_some_iff.mp below
      refine ⟨?_, by rw [rooted, absolute], left, ?_, rfl⟩
      · rintro rfl
        contradiction
      · rw [names_stripParts named strips, directoryNames]
    · contradiction
  · rename_i unrooted
    split at below
    · rename_i empty
      cases below
      exact .inl ⟨eq_empty_of_parts (by simpa using unrooted) empty, rfl⟩
    · rename_i first others split
      generalize cuts : cut path.toList = pieces at below
      obtain ⟨front, behind⟩ := pieces
      dsimp only at below
      split at below
      · rename_i same
        right
        obtain ⟨left, strips, rfl⟩ := Option.map_eq_some_iff.mp below
        have stepsFrom : steps directory = [first].filter (· ≠ ".") ++ others.filter (· ≠ ".") := by
          rw [steps, split, ← List.filter_append, List.singleton_append]
        rw [stepsFrom, List.forall_mem_append] at named
        have firstNames : names first.toList = ([first].filter (· ≠ ".")).map String.toList := by
          by_cases dot : first = "."
          · simp [dot]
          · simpa [dot] using named.1
        have nonempty : front ≠ [] := by
          have listed : first ∈ parts directory := by
            simp [split]
          obtain ⟨part, kept, rfl⟩ := List.mem_map.mp listed
          simpa [same] using (List.mem_filter.mp kept).2
        refine ⟨?_, ?_, left, ?_, rfl⟩
        · rintro rfl
          contradiction
        · rw [isAbsolute_of_cut cuts nonempty]
          simpa using unrooted
        · rw [names_cut cuts, same, firstNames, names_stripParts named.2 strips,
            ← directoryNames, stepsFrom, List.map_append, List.append_assoc]
      · contradiction

/-- What stands behind the last slash is told from the text. -/
theorem eq_of_append_slash
    {front other name last : List Char}
    (nameUnbroken : '/' ∉ name)
    (lastUnbroken : '/' ∉ last)
    (same : front ++ '/' :: name = other ++ '/' :: last) :
    name = last := by
  have parts := congrArg (partsFrom []) same
  rw [partsFrom_append_slash, partsFrom_append_slash, partsFrom_of_unbroken nameUnbroken,
    partsFrom_of_unbroken lastUnbroken] at parts
  simpa using congrArg List.getLast? parts

/-- A text that was skipped into starts with something that leads somewhere. -/
theorem skip_first (text : List Char) :
    (∀ rest, skip text ≠ '/' :: rest) ∧
      (∀ rest, skip text ≠ '.' :: '/' :: rest) ∧
      skip text ≠ ['.'] := by
  fun_induction skip text with
  | case1 rest inductionHypothesis | case2 rest inductionHypothesis =>
      exact inductionHypothesis
  | case3 =>
      simp
  | case4 text unslashed undotted whole =>
      exact ⟨unslashed, undotted, whole⟩

/-- So it has a name, unless it is empty. -/
theorem names_skip_ne_nil {text : List Char} (nonempty : skip text ≠ []) :
    names (skip text) ≠ [] := by
  obtain ⟨unslashed, undotted, whole⟩ := skip_first text
  generalize skip text = left at *
  obtain ⟨front, behind, cuts, -, rfl, ends⟩ := cut_cases left
  obtain ⟨others, first⟩ := partsFrom_cut cuts
  have named : isName front = true := by
    by_contra unnamed
    have empty : front = [] ∨ front = ['.'] := by
      simpa [isName, or_iff_not_imp_left] using unnamed
    rcases empty with rfl | rfl <;> rcases ends with rfl | ⟨rest, rfl⟩
    · exact nonempty rfl
    · exact unslashed rest rfl
    · exact whole rfl
    · exact undotted rest rfl
  simp [names, first, named]

theorem trimReversed_suffix (reversed : List Char) : trimReversed reversed <:+ reversed := by
  fun_induction trimReversed reversed with
  | case1 rest inductionHypothesis =>
      exact inductionHypothesis.trans (List.suffix_cons _ _)
  | case2 rest inductionHypothesis =>
      exact (inductionHypothesis.trans (List.suffix_cons _ _)).trans (List.suffix_cons _ _)
  | case3 =>
      exact List.suffix_rfl

/-- What is left after trimming stands at the start of the text. -/
theorem trimEnd_starts (text : List Char) : trimEnd text <+: text := by
  rw [← List.reverse_suffix, trimEnd, List.reverse_reverse]
  exact trimReversed_suffix _

/-- A trimmed text ends neither with a slash nor with a single dot behind one. -/
theorem trimReversed_last (reversed : List Char) :
    (∀ rest, trimReversed reversed ≠ '/' :: rest) ∧
      ∀ rest, trimReversed reversed ≠ '.' :: '/' :: rest := by
  fun_induction trimReversed reversed with
  | case1 rest inductionHypothesis | case2 rest inductionHypothesis =>
      exact inductionHypothesis
  | case3 text unslashed undotted =>
      exact ⟨unslashed, undotted⟩

/-- A trimmed text ends in its last name. -/
theorem endsIn_trimEnd
    {text name : List Char}
    (last : (names text).getLast? = some name)
    (downward : name ≠ ['.', '.']) :
    EndsIn (trimEnd text) name := by
  rw [← names_trimEnd] at last
  have trimmed : (trimEnd text).reverse = trimReversed text.reverse := by
    simp [trimEnd]
  obtain ⟨unslashed, undotted⟩ := trimReversed_last text.reverse
  rw [← trimmed] at unslashed undotted
  generalize trimEnd text = left at *
  obtain ⟨part, unbroken, shape⟩ := exists_last left
  have named : isName part = true := by
    by_contra unnamed
    have empty : part = [] ∨ part = ['.'] := by
      simpa [isName, or_iff_not_imp_left] using unnamed
    rcases shape with rfl | ⟨front, rfl⟩
    · simp [names_of_unbroken unbroken, unnamed] at last
    · rcases empty with rfl | rfl
      · exact unslashed front.reverse (by simp)
      · exact undotted front.reverse (by simp)
  have same : part = name := by
    rcases shape with rfl | ⟨front, rfl⟩
    · simpa [names_of_unbroken unbroken, named] using last
    · simpa [names_append_slash, names_of_unbroken unbroken, named] using last
  subst same
  exact ⟨unbroken, named, downward, shape⟩

theorem EndsIn.names
    {text name : List Char}
    (ends : EndsIn text name) :
    (Path.names text).getLast? = some name := by
  rcases ends.last with rfl | ⟨front, rfl⟩
  · simp [names_of_unbroken ends.unbroken, ends.named]
  · simp [names_append_slash, names_of_unbroken ends.unbroken, ends.named]

/-- Behind another text, a text ends in the same name. -/
theorem EndsIn.behind
    {text name : List Char}
    (ends : EndsIn text name)
    (front : List Char) :
    EndsIn (front ++ '/' :: text) name where
  unbroken := ends.unbroken
  named := ends.named
  downward := ends.downward
  last := by
    rcases ends.last with rfl | ⟨middle, rfl⟩
    · exact .inr ⟨front, rfl⟩
    · exact .inr ⟨front ++ '/' :: middle, by simp⟩

@[simp] theorem join_empty (path : String) : join "" path = path := by
  unfold join
  split <;> simp

theorem join_of_isAbsolute {path : String} (absolute : isAbsolute path = true) (base : String) :
    join base path = path := by
  simp [join, absolute]

/-- A relative path is joined behind a slash, which the base may end with already. -/
theorem join_cases
    {base path : String}
    (relative : isAbsolute path = false)
    (nonempty : base ≠ "") :
    ∃ front,
      (join base path).toList = front ++ '/' :: path.toList ∧
        (base.toList = front ∨ base.toList = front ++ ['/']) := by
  unfold join
  rw [if_neg (by simp [relative])]
  split
  · rename_i slash
    have last : base.toList.getLast? = some '/' := by
      simpa [nonempty] using slash
    obtain ⟨front, shape⟩ := List.getLast?_eq_some_iff.mp last
    exact ⟨front, by simp [shape], .inr shape⟩
  · exact ⟨base.toList, by simp, .inl rfl⟩

theorem names_join
    {base path : String}
    (relative : isAbsolute path = false) :
    names (join base path).toList = names base.toList ++ names path.toList := by
  by_cases empty : base = ""
  · simp [empty]
  · obtain ⟨front, joined, shape⟩ := join_cases relative empty
    rw [joined, names_append_slash]
    rcases shape with same | same
    · rw [same]
    · rw [same, names_append_slash, names_nil, List.append_nil]

theorem isAbsolute_join
    {base path : String}
    (relative : isAbsolute path = false)
    (nonempty : base ≠ "") :
    isAbsolute (join base path) = isAbsolute base := by
  obtain ⟨front, joined, shape⟩ := join_cases relative nonempty
  unfold isAbsolute
  rw [joined]
  rcases shape with same | same
  · rw [same]
    cases front with
    | nil =>
        exact (nonempty (String.toList_inj.mp same)).elim
    | cons character rest =>
        rfl
  · rw [same]
    cases front <;> rfl

/-- A joined path ends in the name that it ended in before. -/
theorem EndsIn.join
    {path : String}
    {name : List Char}
    (ends : EndsIn path.toList name)
    (base : String) :
    EndsIn (join base path).toList name := by
  cases absolute : isAbsolute path with
  | true =>
      rw [join_of_isAbsolute absolute]
      exact ends
  | false =>
      by_cases empty : base = ""
      · rw [empty, join_empty]
        exact ends
      · obtain ⟨front, joined, -⟩ := join_cases absolute empty
        rw [joined]
        exact ends.behind front

/-- A text starts as the nonempty texts do that it starts with. -/
theorem head?_of_prefix
    {front text : List Char}
    (starts : front <+: text)
    (nonempty : front ≠ []) :
    front.head? = text.head? := by
  obtain ⟨rest, rfl⟩ := starts
  cases front with
  | nil =>
      exact (nonempty rfl).elim
  | cons character others =>
      rfl

/-- Two paths that start at the same place and go through the same names to a file. -/
structure SameWay (first second : String) : Prop where
  start : isAbsolute first = isAbsolute second
  names : names first.toList = names second.toList
  toFile : ∃ name, EndsIn first.toList name ∧ EndsIn second.toList name

/-- What is below a directory leads the same way once it is joined to the directory again. -/
theorem sameWay_join_below
    {directory path rest : String}
    {name : List Char}
    (ends : EndsIn path.toList name)
    (below : below? directory path = some rest)
    (inside : rest ≠ "") :
    SameWay (join directory rest) path := by
  rcases below?_cases below with ⟨rfl, rfl⟩ | ⟨nonempty, start, left, pathNames, rfl⟩
  · have trimmed : EndsIn (trimEnd path.toList) name := endsIn_trimEnd ends.names ends.downward
    rw [join_empty]
    refine ⟨?_, by simp, name, by simpa using trimmed, ends⟩
    have first := head?_of_prefix (trimEnd_starts path.toList) (by simpa using inside)
    simp [isAbsolute, first]
  · have nonemptyLeft : skip left ≠ [] := by
      intro empty
      simp [empty, trimEnd, trimReversed] at inside
    have leftNames := names_skip_ne_nil nonemptyLeft
    rw [names_skip] at leftNames
    have last : (names left).getLast? = some name := by
      have pathLast := ends.names
      rw [pathNames, List.getLast?_append] at pathLast
      cases found : (names left).getLast? with
      | none =>
          exact (leftNames (List.getLast?_eq_none_iff.mp found)).elim
      | some last =>
          simpa [found] using pathLast
    rw [← names_skip] at last
    have trimmed : EndsIn (trimEnd (skip left)) name := endsIn_trimEnd last ends.downward
    have relative : isAbsolute (String.ofList (trimEnd (skip left))) = false := by
      have first := head?_of_prefix (trimEnd_starts (skip left)) (by simpa using inside)
      have unslashed : (skip left).head? ≠ some '/' := by
        intro slash
        obtain ⟨rest, shape⟩ := List.head?_eq_some_iff.mp slash
        exact (skip_first left).1 rest shape
      simp [isAbsolute, first, unslashed]
    refine ⟨by rw [isAbsolute_join relative nonempty, start], ?_, name, ?_, ends⟩
    · rw [names_join relative, pathNames, String.toList_ofList, names_trimEnd, names_skip]
    · exact EndsIn.join (by simpa using trimmed) directory

/-- A text with a long ending has that ending in its last name. -/
theorem endsIn_append
    {ending : List Char}
    (unbroken : '/' ∉ ending)
    (long : 2 < ending.length)
    (text : List Char) :
    ∃ name, EndsIn (text ++ ending) (name ++ ending) := by
  obtain ⟨name, whole, shape⟩ := exists_last text
  have longer : 2 < (name ++ ending).length := by
    rw [List.length_append]
    omega
  refine ⟨name, by simp [whole, unbroken], ?_, ?_, ?_⟩
  · simp only [isName, decide_eq_true_eq]
    constructor <;> rintro same <;> simp [same] at longer
  · intro same
    simp [same] at longer
  · rcases shape with rfl | ⟨front, rfl⟩
    · exact .inl rfl
    · exact .inr ⟨front, by simp⟩

/-- The last part of a text is the name that it ends in. -/
theorem EndsIn.partsFrom
    {text name : List Char}
    (ends : EndsIn text name) :
    ∃ earlier, Path.partsFrom [] text = earlier ++ [name] := by
  rcases ends.last with rfl | ⟨front, rfl⟩
  · exact ⟨[], by simp [partsFrom_of_unbroken ends.unbroken]⟩
  · exact ⟨Path.partsFrom [] front,
      by rw [partsFrom_append_slash, partsFrom_of_unbroken ends.unbroken]; rfl⟩

/-- The last character of a text is that of the name that it ends in. -/
theorem EndsIn.getLast?
    {text name : List Char}
    (ends : EndsIn text name) :
    text.getLast? = name.getLast? := by
  have nonempty : name ≠ [] := by
    have named := ends.named
    simp only [isName, decide_eq_true_eq] at named
    exact named.1
  rcases ends.last with rfl | ⟨front, rfl⟩
  · rfl
  · rw [List.getLast?_append, List.getLast?_cons]
    cases last : name.getLast? with
    | none =>
        exact (nonempty (List.getLast?_eq_none_iff.mp last)).elim
    | some character =>
        rfl

/-- The last part of a path is the name that it ends in. -/
theorem EndsIn.parts
    {path : String}
    {name : List Char}
    (ends : EndsIn path.toList name) :
    (Path.parts path).getLast? = some (String.ofList name) := by
  obtain ⟨earlier, partsAre⟩ := ends.partsFrom
  have named := ends.named
  simp only [isName, decide_eq_true_eq] at named
  simp [Path.parts, partsAre, named.1]

/-- The name that a path ends in leads downward. -/
theorem EndsIn.ofList_ne
    {text name : List Char}
    (ends : EndsIn text name) :
    String.ofList name ≠ "." ∧ String.ofList name ≠ ".." := by
  have named := ends.named
  simp only [isName, decide_eq_true_eq] at named
  constructor <;> rw [ne_eq, ← String.toList_inj, String.toList_ofList]
  · exact named.2
  · exact ends.downward

/-- A path that ends in a name may be that of a file. -/
theorem EndsIn.namesDirectory
    {path : String}
    {name : List Char}
    (ends : EndsIn path.toList name) :
    namesDirectory path = false := by
  have unslashed : path.toList.getLast? ≠ some '/' := by
    rw [ends.getLast?]
    intro slash
    exact ends.unbroken (List.mem_of_getLast? slash)
  simp [Path.namesDirectory, ends.parts, unslashed, ends.ofList_ne]

/-- The characters of a text are slashes and those of its parts. -/
theorem mem_partsFrom_iff
    {character : Char}
    (other : character ≠ '/')
    (part text : List Char) :
    (∃ found ∈ Path.partsFrom part text, character ∈ found) ↔
      character ∈ part ∨ character ∈ text := by
  fun_induction Path.partsFrom part text with
  | case1 part =>
      simp
  | case2 part rest inductionHypothesis =>
      simp [inductionHypothesis, other]
  | case3 part first rest broken inductionHypothesis =>
      rw [inductionHypothesis, List.mem_cons, List.mem_cons, or_comm (a := character = first),
        or_assoc]

/-- Two texts with the same names have the same characters, save slashes and dots. -/
theorem mem_iff_of_names
    {character : Char}
    {first second : List Char}
    (slash : character ≠ '/')
    (dot : character ≠ '.')
    (same : names first = names second) :
    character ∈ first ↔ character ∈ second := by
  have named (text : List Char) :
      character ∈ text ↔ ∃ name ∈ names text, character ∈ name := by
    have inParts := mem_partsFrom_iff slash [] text
    simp only [List.not_mem_nil, false_or] at inParts
    rw [← inParts]
    constructor
    · rintro ⟨found, listed, inside⟩
      refine ⟨found, List.mem_filter.mpr ⟨listed, ?_⟩, inside⟩
      simp only [isName, decide_eq_true_eq]
      constructor <;> rintro rfl <;> simp [dot] at inside
    · rintro ⟨name, listed, inside⟩
      exact ⟨name, (List.mem_filter.mp listed).1, inside⟩
  rw [named, named, same]

end Path

end LatchMutex
