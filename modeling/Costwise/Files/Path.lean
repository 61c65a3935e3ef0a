/-!
# Paths

A path as it was typed, cleaned up without looking at any disk: empty parts and
single dots go, double dots stay, since they may lead somewhere else than the
part before them came from. Two slashes in front are kept as two.

## Main definitions

* `Path`: A path.
* `Path.ofString`, `Path.text`: To and from text.
* `Path.parent`: The path without its last part.
* `Path.flatten`: The path with double dots taken literally.
-/

namespace Costwise

namespace Files

/-- A path: the slashes in front, and the parts. -/
structure Path where
  /-- The slashes in front, none for a relative path. -/
  anchor : String := ""
  /-- The parts, neither empty nor a single dot. -/
  parts : List String
  deriving DecidableEq, Repr

namespace Path

/-- The slashes that a path begins with, as they are kept. -/
def anchorOf : List Char → String
  | '/' :: '/' :: '/' :: _ => "/"
  | '/' :: '/' :: _ => "//"
  | '/' :: _ => "/"
  | _ => ""

/-- The parts of a path, without those that lead nowhere. -/
def partsOf (chars : List Char) : List String :=
  ((chars.splitOn '/').map String.ofList).filter fun part => part != "" && part != "."

/-- Cleans a typed path. -/
def ofString (typed : String) : Path where
  anchor := anchorOf typed.toList
  parts := partsOf typed.toList

/-- A path as it is shown: a dot if there is nothing to show. -/
def text (path : Path) : String :=
  if path.anchor = "" ∧ path.parts = [] then "."
  else path.anchor ++ "/".intercalate path.parts

/-- The path without its last part. -/
def parent (path : Path) : Path :=
  { path with parts := path.parts.dropLast }

/-- Adds a part to parts without double dots in their midst: a double dot takes back
    the part before it, if there is one to take back. -/
def flattenStep (parts : List String) (part : String) : List String :=
  if part = ".." ∧ parts ≠ [] ∧ parts.getLast? ≠ some ".." then parts.dropLast
  else parts ++ [part]

/-- The path with every double dot taking back the part before it. At the top of the
    disk there is nothing to take back. -/
def flatten (path : Path) : Path :=
  let parts := path.parts.foldl flattenStep []
  { path with parts := if path.anchor = "" then parts else parts.filter (· != "..") }

/-- The path from the top, where a relative path starts in the folder shown as `here`. -/
def absoluteText (here : String) (path : Path) : String :=
  if path.anchor = "" then "/".intercalate (here :: path.parts)
  else path.anchor ++ "/".intercalate path.parts

end Path

end Files

end Costwise
