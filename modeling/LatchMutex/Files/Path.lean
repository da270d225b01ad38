namespace LatchMutex

/-!
# Paths

A path is a text whose parts stand between slashes.  Everything here works on
the text alone and asks no file system.  Empty parts mean nothing, and neither
does a single dot, except at the start of a path that is not absolute.
-/

namespace Path

/-- Whether the path starts at the root. -/
def isAbsolute (path : String) : Bool :=
  path.toList.head? = some '/'

/-- Text of the path up to the next slash, and the rest. -/
def cut (characters : List Char) : List Char × List Char :=
  characters.span fun character => character ≠ '/'

/-- The texts between slashes, after the part under construction. -/
def partsFrom (part : List Char) : List Char → List (List Char)
  | [] => [part.reverse]
  | '/' :: rest => part.reverse :: partsFrom [] rest
  | character :: rest => partsFrom (character :: part) rest

/-- The parts that are not empty, in order. -/
def parts (path : String) : List String :=
  ((partsFrom [] path.toList).filter fun part => !part.isEmpty).map String.ofList

/-- Whether the path can name a directory only. -/
def namesDirectory (path : String) : Bool :=
  path.toList.getLast? = some '/' || (parts path).getLast? = some "."
    || (parts path).getLast? = some ".."

/-- A path below another one; an absolute path stands for itself. -/
def join (base path : String) : String :=
  if isAbsolute path then
    path
  else if base.isEmpty || base.toList.getLast? = some '/' then
    base ++ path
  else
    base ++ "/" ++ path

/-- Skip slashes and single dots in front of a part. -/
def skip : List Char → List Char
  | '/' :: rest => skip rest
  | '.' :: '/' :: rest => skip rest
  | ['.'] => []
  | characters => characters

/-- Drop slashes and single dots at the end of a text, given last character first. -/
def trimReversed : List Char → List Char
  | '/' :: rest => trimReversed rest
  | '.' :: '/' :: rest => trimReversed rest
  | characters => characters

/-- Drop slashes and single dots at the end of a text. -/
def trimEnd (characters : List Char) : List Char :=
  (trimReversed characters.reverse).reverse

/-- What is left of a text behind given parts, if it starts with them. -/
def stripParts : List String → List Char → Option (List Char)
  | [], characters => some characters
  | part :: rest, characters =>
      let (first, behind) := cut (skip characters)
      if first = part.toList then stripParts rest behind else none

/-- The path as seen from a directory, if it lies below it. -/
def below? (directory path : String) : Option String :=
  let names := fun (parts : List String) => parts.filter fun part => part ≠ "."
  if isAbsolute directory then
    if isAbsolute path then
      (stripParts (names (parts directory)) path.toList).map fun rest =>
        String.ofList (trimEnd (skip rest))
    else
      none
  else
    match parts directory with
    | [] => some (String.ofList (trimEnd path.toList))
    | first :: rest =>
        let (head, behind) := cut path.toList
        if head = first.toList then
          (stripParts (names rest) behind).map fun rest =>
            String.ofList (trimEnd (skip rest))
        else
          none

/-- The path as it is recorded from a directory: relative if it lies below it. -/
def relativeTo (directory path : String) : String :=
  (below? directory path).getD path

/-- The directory that a path lies in; the root and the empty path lie in none. -/
def parent? (path : String) : Option String :=
  let trimmed := trimEnd path.toList
  if trimmed.isEmpty then
    none
  else
    let above := trimEnd (trimmed.reverse.dropWhile fun character => character ≠ '/').reverse
    some (if above.isEmpty && isAbsolute path then "/" else String.ofList above)

/-- The path and the directories that it lies in, innermost first, up to a number of them. -/
def ancestorsUpTo : Nat → String → List String
  | 0, _ => []
  | count + 1, path =>
      if path.isEmpty then
        []
      else
        path :: ((parent? path).map (ancestorsUpTo count)).getD []

/-- The path and the directories that it lies in, innermost first; each is shorter than the one
before it. -/
def ancestors (path : String) : List String :=
  ancestorsUpTo path.length path

end Path

end LatchMutex
