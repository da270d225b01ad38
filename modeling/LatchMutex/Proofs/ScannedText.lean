import LatchMutex.Json.Printer
import LatchMutex.Proofs.TokenTrees

namespace LatchMutex

/-!
# Printed values and their tokens

What is printed of a value scans to the tokens of its tree.  A quoted string is
closed by its own quote, so it scans to one token whatever comes behind it.  A
number is only closed by the character behind it, so a value is scanned up to a
character that ends numbers: `ReadsBefore`, against `Reads` for what is closed.
-/

namespace Digits

/-- A number starts with a digit, which is zero only if the number is. -/
theorem exists_ofNat_eq_cons (number : Nat) :
    ∃ first rest, ofNat number = first :: rest ∧ (first = 0 → number = 0) := by
  induction number using Nat.strongRecOn with
  | ind number inductionHypothesis =>
      unfold ofNat
      split
      · exact ⟨number, [], rfl, id⟩
      · rename_i large
        obtain ⟨first, rest, higher, zero⟩ := inductionHypothesis (number / 10) (by omega)
        refine ⟨first, rest ++ [number % 10], by rw [higher, List.cons_append], ?_⟩
        intro leading
        have := zero leading
        omega

/-- A number that starts with a zero has no other digit. -/
theorem eq_nil_of_leading_zero
    {number first : Nat}
    {rest : List Nat}
    (digits : ofNat number = first :: rest)
    (leading : first = 0) :
    rest = [] := by
  obtain ⟨first', rest', same, zero⟩ := exists_ofNat_eq_cons number
  rw [same] at digits
  cases digits
  have none : number = 0 := zero leading
  subst none
  unfold ofNat at same
  simp_all

end Digits

namespace WideInteger

/-- The integer as it is spelled. -/
def literal (integer : WideInteger) : Literal where
  negative := integer.value < 0
  whole := Digits.ofNat integer.value.natAbs

end WideInteger

namespace Number

/-- An integer as it is spelled; floats are left without digits. -/
def literal : Number → Literal
  | .integer value => value.literal
  | .float value => { negative := value.negative, whole := [] }

end Number

namespace Json

mutual

/-- The tree that is printed for a value. -/
def tree : Json → Raw
  | .null => .null
  | .bool value => .bool value
  | .number value => .number value.literal
  | .string text => .string (some text)
  | .array items => .array (itemTrees items)
  | .object members => .object (memberTrees members)

/-- Trees of items. -/
def itemTrees : List Json → List Raw
  | [] => []
  | item :: rest => tree item :: itemTrees rest

/-- Trees of members. -/
def memberTrees : List (String × Json) → List (Option String × Raw)
  | [] => []
  | (key, value) :: rest => (some key, tree value) :: memberTrees rest

end

/--
A value without floats, whose containers are nested at most so deep and have
their members in ascending order of the keys.
-/
inductive Plain : Nat → Json → Prop where
  | null {depth : Nat} : Plain depth .null
  | bool {depth : Nat} (value : Bool) : Plain depth (.bool value)
  | integer {depth : Nat} (value : WideInteger) : Plain depth (.number (.integer value))
  | string {depth : Nat} (text : String) : Plain depth (.string text)
  | array {depth : Nat} {items : List Json} :
      (∀ item ∈ items, Plain depth item) →
      Plain (depth + 1) (.array items)
  | object {depth : Nat} {members : List (String × Json)} :
      (members.map Prod.fst).Pairwise (· < ·) →
      (∀ member ∈ members, Plain depth member.2) →
      Plain (depth + 1) (.object members)

end Json

namespace Scan

/-- Wherever a token may start, the characters are read as these tokens. -/
def Reads (characters : List Char) (tokens : List Token) : Prop :=
  ∀ (earlier : List Token) (rest : List Char),
    (characters ++ rest).foldlM step { tokens := earlier } =
      rest.foldlM step { tokens := tokens.reverse ++ earlier }

/-- No digit, and nothing that continues a number. -/
def EndsNumber (character : Char) : Prop :=
  Digits.ofChar? character = none ∧
    character ≠ '.' ∧ character ≠ 'e' ∧ character ≠ 'E'

instance (character : Char) : Decidable (EndsNumber character) :=
  inferInstanceAs (Decidable (_ ∧ _))

/-- The characters are read as these tokens before a character that ends numbers. -/
def ReadsBefore (characters : List Char) (tokens : List Token) : Prop :=
  ∀ (earlier : List Token) (next : Char) (rest : List Char),
    EndsNumber next →
    (characters ++ next :: rest).foldlM step { tokens := earlier } =
      (next :: rest).foldlM step { tokens := tokens.reverse ++ earlier }

namespace Reads

variable {first second : List Char} {tokens others : List Token}

/-- A token of one character. -/
theorem single
    {character : Char}
    {token : Token}
    (starts : ∀ scan : Scan, scan.start character = some (scan.emit token)) :
    Reads [character] [token] := by
  intro earlier rest
  rw [List.singleton_append, List.foldlM_cons]
  change (Scan.start _ character >>= _) = _
  rw [starts]
  rfl

theorem before (reads : Reads first tokens) : ReadsBefore first tokens :=
  fun earlier next rest _ => reads earlier (next :: rest)

theorem append (reads : Reads first tokens) (reads' : Reads second others) :
    Reads (first ++ second) (tokens ++ others) := by
  intro earlier rest
  rw [List.append_assoc, reads, reads', List.reverse_append, List.append_assoc]

/-- A value in front of characters that start by ending a number. -/
theorem behind
    (reads : Reads second others)
    (ends : ∃ next rest, second = next :: rest ∧ EndsNumber next)
    (value : ReadsBefore first tokens) :
    Reads (first ++ second) (tokens ++ others) := by
  obtain ⟨next, continued, rfl, endsNumber⟩ := ends
  intro earlier rest
  rw [List.append_assoc, List.cons_append, value earlier next _ endsNumber, ← List.cons_append,
    reads, List.reverse_append, List.append_assoc]

theorem comma : Reads [','] [.comma] :=
  single fun _ => rfl

theorem colon : Reads [':'] [.colon] :=
  single fun _ => rfl

theorem openBracket : Reads ['['] [.openBracket] :=
  single fun _ => rfl

theorem closeBracket : Reads [']'] [.closeBracket] :=
  single fun _ => rfl

theorem openBrace : Reads ['\x7b'] [.openBrace] :=
  single fun _ => rfl

theorem closeBrace : Reads ['\x7d'] [.closeBrace] :=
  single fun _ => rfl

theorem null : Reads "null".toList [.null] := by
  intro earlier rest
  rfl

theorem boolText (value : Bool) : Reads (Document.boolText value) [.bool value] := by
  intro earlier rest
  cases value <;> rfl

end Reads

/-- A hexadecimal digit is read back. -/
theorem hexValue?_hexDigit {digit : Nat} (small : digit < 16) :
    hexValue? (Text.hexDigit digit) = some digit := by
  have all : ∀ digit < 16, hexValue? (Text.hexDigit digit) = some digit := by decide
  exact all digit small

/-- A character of a string is read back from its spelling. -/
theorem foldlM_escape
    (character : Char)
    (draft : List Char)
    (tokens : List Token)
    (rest : List Char) :
    (Document.escape character ++ rest).foldlM step
        { mode := .string (some draft) none, tokens } =
      rest.foldlM step { mode := .string (some (character :: draft)) none, tokens } := by
  unfold Document.escape
  split
  case h_8 quote backslash _ _ _ _ _ =>
    have unquoted : character ≠ '"' := quote
    have unescaped : character ≠ '\\' := backslash
    split
    · rename_i control
      have high := hexValue?_hexDigit (show character.toNat / 16 < 16 by omega)
      have low := hexValue?_hexDigit (show character.toNat % 16 < 16 by omega)
      have value : 16 * (character.toNat / 16) + character.toNat % 16 = character.toNat :=
        Nat.div_add_mod _ 16
      have plain : ¬ (0xD800 ≤ character.toNat ∧ character.toNat < 0xDC00) := by omega
      have plain' : ¬ (0xDC00 ≤ character.toNat ∧ character.toNat < 0xE000) := by omega
      have zero : hexValue? '0' = some 0 := rfl
      simp [step, enter, high, low, zero, value, takeUnit, plain, plain', unpaired, Draft.push]
    · rename_i printed
      simp [step, enter, unquoted, unescaped, printed, unpaired, Draft.push]
  all_goals rfl

/-- A string is read back from its quotes. -/
theorem Reads.quote (text : String) : Reads (Document.quote text) [.string (some text)] := by
  have inside (characters draft : List Char) (tokens : List Token) (rest : List Char) :
      (characters.flatMap Document.escape ++ rest).foldlM step
          { mode := .string (some draft) none, tokens } =
        rest.foldlM step
          { mode := .string (some (characters.reverse ++ draft)) none, tokens } := by
    induction characters generalizing draft with
    | nil =>
        rfl
    | cons character others inductionHypothesis =>
        rw [List.flatMap_cons, List.append_assoc, foldlM_escape, inductionHypothesis]
        simp
  intro earlier rest
  have opened :
      (Document.quote text ++ rest).foldlM step { tokens := earlier } =
        (text.toList.flatMap Document.escape ++ ('"' :: rest)).foldlM step
          { mode := .string (some []) none, tokens := earlier } := by
    simp [Document.quote, step, start, enter]
  rw [opened, inside]
  simp [step, unpaired, Draft.finish, emit]

/-- The digits of a number are read up to the character that ends it. -/
theorem foldlM_digits
    (negative : Bool)
    {seen digits : List Nat}
    {next : Char}
    (tokens : List Token)
    (rest : List Char)
    (small : ∀ digit ∈ digits, digit < 10)
    (started : seen ≠ [])
    (unpadded : seen = [0] → digits = [])
    (ends : EndsNumber next) :
    (digits.map Digits.char ++ next :: rest).foldlM step
        { mode := .whole negative seen, tokens } =
      (next :: rest).foldlM step
        { tokens := .number { negative, whole := seen.reverse ++ digits } :: tokens } := by
  induction digits generalizing seen with
  | nil =>
      obtain ⟨noDigit, noPoint, noMark, noCapital⟩ := ends
      simp only [List.map_nil, List.nil_append, List.append_nil, List.foldlM_cons]
      simp [step, noDigit, noPoint, noMark, noCapital, close, emit]
  | cons digit others inductionHypothesis =>
      have read := Digits.ofChar?_char (small digit (by simp))
      have unpadded' : seen ≠ [0] := fun zero => by simpa using unpadded zero
      have taken :
          step { mode := .whole negative seen, tokens } (Digits.char digit) =
            some { mode := .whole negative (digit :: seen), tokens } := by
        simp [step, read, unpadded', enter]
      rw [List.map_cons, List.cons_append, List.foldlM_cons, taken]
      have later :=
        @inductionHypothesis (digit :: seen)
          (fun other member => small other (by simp [member]))
          (by simp)
          (fun zero => by simp [started] at zero)
      simpa using later

/-- A digit starts a number. -/
theorem start_char {digit : Nat} (small : digit < 10) (scan : Scan) :
    scan.start (Digits.char digit) = some (scan.enter (.whole false [digit])) := by
  have cases :
      digit = 0 ∨ digit = 1 ∨ digit = 2 ∨ digit = 3 ∨ digit = 4 ∨ digit = 5 ∨ digit = 6 ∨
        digit = 7 ∨ digit = 8 ∨ digit = 9 := by
    omega
  rcases cases with rfl | rfl | rfl | rfl | rfl | rfl | rfl | rfl | rfl | rfl <;> rfl

/-- An integer is read back from its text. -/
theorem ReadsBefore.integer (integer : WideInteger) :
    ReadsBefore (Digits.signedText integer.value) [.number integer.literal] := by
  intro earlier next rest ends
  obtain ⟨first, others, digits, -⟩ := Digits.exists_ofNat_eq_cons integer.value.natAbs
  have small := Digits.lt_ten_of_mem_ofNat integer.value.natAbs
  rw [digits] at small
  have firstSmall := small first (by simp)
  have reads (negative : Bool) :=
    foldlM_digits negative earlier rest
      (fun digit member => small digit (by simp [member]))
      (List.cons_ne_nil first [])
      (fun zero => Digits.eq_nil_of_leading_zero digits (by simpa using zero))
      ends
  unfold WideInteger.literal Digits.signedText Digits.text
  rw [digits]
  split
  · rename_i negative
    have signed :
        ('-' :: (first :: others).map Digits.char ++ next :: rest).foldlM step
            { tokens := earlier } =
          (others.map Digits.char ++ next :: rest).foldlM step
            { mode := .whole true [first], tokens := earlier } := by
      simp [step, start, enter, Digits.ofChar?_char firstSmall]
    rw [signed, reads]
    simp [negative]
  · rename_i positive
    have unsigned :
        ((first :: others).map Digits.char ++ next :: rest).foldlM step
            { tokens := earlier } =
          (others.map Digits.char ++ next :: rest).foldlM step
            { mode := .whole false [first], tokens := earlier } := by
      simp [step, start_char firstSmall, enter]
    rw [unsigned, reads]
    simp [positive]

end Scan

namespace Document

/-- What follows an item ends a number. -/
theorem compactItemsAfter_ends (items : List Document) :
    ∃ next rest, compactItemsAfter items = next :: rest ∧ Scan.EndsNumber next := by
  cases items with
  | nil =>
      exact ⟨']', [], rfl, by decide⟩
  | cons item others =>
      exact ⟨',', _, rfl, by decide⟩

/-- What follows a member ends a number. -/
theorem compactMembersAfter_ends (members : List (String × Document)) :
    ∃ next rest, compactMembersAfter members = next :: rest ∧ Scan.EndsNumber next := by
  cases members with
  | nil =>
      exact ⟨'\x7d', [], rfl, by decide⟩
  | cons member others =>
      exact ⟨',', _, rfl, by decide⟩

end Document

/-- A text that scans to the tokens of a tree is read back as this tree. -/
theorem Raw.parse?_of_readsBefore
    {characters : List Char}
    {tree : Raw}
    (scans : Scan.ReadsBefore characters tree.tokens) :
    Raw.parse? (String.ofList characters) = some tree := by
  -- The scanner puts a blank of its own behind the text.
  have reads := scans [] ' ' [] (by decide)
  have blank (scan : Scan) : [' '].foldlM Scan.step scan = scan.step ' ' := by simp
  have ended : ({ tokens := tree.tokens.reverse ++ [] } : Scan).step ' ' =
      some { tokens := tree.tokens.reverse } := by
    rw [List.append_nil]
    rfl
  rw [List.foldlM_append, blank, ended] at reads
  simp only [blank] at reads
  have scanned : Token.scan? characters = some tree.tokens := by
    rw [Token.scan?, ← bind_assoc, reads]
    simp
  rw [Raw.parse?, String.toList_ofList, scanned]
  exact Raw.ofTokens?_tokens tree

namespace Json

open Scan

/-- A value scans to the tokens of its tree. -/
def Scans (value : Json) : Prop :=
  ReadsBefore value.toDocument.compactText value.tree.tokens

/-- Further items scan if each of them does. -/
theorem reads_itemsAfter
    {items : List Json}
    (each : ∀ item ∈ items, item.Scans) :
    Reads (Document.compactItemsAfter (itemDocuments items))
      (Raw.itemTokensAfter (itemTrees items)) := by
  induction items with
  | nil =>
      exact .closeBracket
  | cons item others inductionHypothesis =>
      have later := inductionHypothesis fun other member => each other (by simp [member])
      have value : item.Scans := each item (by simp)
      exact Reads.comma.append (later.behind (Document.compactItemsAfter_ends _) value)

/-- Further members scan if each of their values does. -/
theorem reads_membersAfter
    {members : List (String × Json)}
    (each : ∀ member ∈ members, member.2.Scans) :
    Reads (Document.compactMembersAfter (memberDocuments members))
      (Raw.memberTokensAfter (memberTrees members)) := by
  induction members with
  | nil =>
      exact .closeBrace
  | cons member others inductionHypothesis =>
      obtain ⟨key, item⟩ := member
      have later := inductionHypothesis fun other member => each other (by simp [member])
      have value : item.Scans := each (key, item) (by simp)
      have named :=
        (Reads.comma.append (.quote key)).append
          (Reads.colon.append (later.behind (Document.compactMembersAfter_ends _) value))
      simpa [memberDocuments, memberTrees, Document.compactMembersAfter,
        Raw.memberTokensAfter] using named

/-- An array scans if each of its items does. -/
theorem scans_array
    {items : List Json}
    (each : ∀ item ∈ items, item.Scans) :
    Scans (.array items) := by
  refine Reads.before ?_
  cases items with
  | nil =>
      exact Reads.openBracket.append .closeBracket
  | cons item others =>
      have later := reads_itemsAfter fun other member => each other (List.mem_cons_of_mem _ member)
      have value : item.Scans := each item (by simp)
      exact Reads.openBracket.append (later.behind (Document.compactItemsAfter_ends _) value)

/-- An object scans if the value of each of its members does. -/
theorem scans_object
    {members : List (String × Json)}
    (each : ∀ member ∈ members, member.2.Scans) :
    Scans (.object members) := by
  refine Reads.before ?_
  cases members with
  | nil =>
      exact Reads.openBrace.append .closeBrace
  | cons member others =>
      obtain ⟨key, item⟩ := member
      have later :=
        reads_membersAfter fun other member => each other (List.mem_cons_of_mem _ member)
      have value : item.Scans := each (key, item) (by simp)
      have named :=
        (Reads.openBrace.append (.quote key)).append
          (Reads.colon.append (later.behind (Document.compactMembersAfter_ends _) value))
      simpa [toDocument, memberDocuments, tree, memberTrees, Document.compactText,
        Document.compactMembers, Raw.tokens, Raw.memberTokens] using named

/-- A plain value scans. -/
theorem Plain.scans {depth : Nat} {value : Json} (plain : value.Plain depth) : value.Scans := by
  induction plain with
  | null =>
      exact Reads.null.before
  | bool value =>
      exact (Reads.boolText value).before
  | integer value =>
      exact ReadsBefore.integer value
  | string text =>
      exact (Reads.quote text).before
  | array items each =>
      exact scans_array each
  | object ascending items each =>
      exact scans_object each

/-- Every value that scans is read back as its tree. -/
theorem Scans.parse? {value : Json} (scans : value.Scans) :
    Raw.parse? value.toDocument.compact = some value.tree :=
  Raw.parse?_of_readsBefore scans

end Json

end LatchMutex
