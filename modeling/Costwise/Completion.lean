import Costwise.Files.Disk

/-!
# Completing What Is Typed

Proposals for an argument that is typed in part: the names of the output
formats, or the source files and folders that continue a path. Hidden entries
are not proposed.

## Main definitions

* `Completion.amongWords`: Proposals from a list of words, such as the output formats.
* `Completion.splitTyped`: The folder and the last part of a typed path.
* `Completion.sources`: Proposals for a source file.
-/

namespace Costwise

namespace Completion

open Files

/-- The words that continue what is typed. -/
def amongWords (words : List String) (typed : String) : List String :=
  words.filter (typed.toList.isPrefixOf ·.toList)

/-- Endings of source files. -/
def sourceEndings : List String := [".js", ".mjs", ".cjs", ".jsx"]

/-- The folder part of a path, without the slashes that separate it, unless it
    has nothing else. -/
def trimSlashes (folder : List Char) : List Char :=
  if folder.all (· == '/') then folder else (folder.reverse.dropWhile (· == '/')).reverse

/-- The folder and the last part of a typed path. -/
def splitTyped (typed : String) : String × String :=
  let last := (typed.toList.reverse.takeWhile (· != '/')).reverse
  let folder := typed.toList.take (typed.length - last.length)
  (String.ofList (trimSlashes folder), String.ofList last)

/-- A name in a folder, as it is typed. -/
def joinTyped (folder name : String) : String :=
  if folder = "" then name
  else if folder.toList.getLast? = some '/' then folder ++ name
  else folder ++ "/" ++ name

/-- Whether a name is one to propose: it continues what is typed and is not hidden. -/
def isCandidate (last name : String) : Bool :=
  last.toList.isPrefixOf name.toList && name.toList.head? != some '.'

/-- Whether a name has an ending of a source file. -/
def isSourceName (name : String) : Bool :=
  sourceEndings.any (·.toList.isSuffixOf name.toList)

/-- The source files and folders that continue a typed path. -/
def sources (disk : Disk) (typed : String) : List String :=
  let (folder, last) := splitTyped typed
  let path := Path.ofString folder
  if disk.hasFolder path then
    ((disk.names path).filter fun name =>
      isCandidate last name &&
        (disk.hasFolder (.ofString (joinTyped folder name)) || isSourceName name)).map
      (joinTyped folder)
  else []

end Completion

end Costwise
