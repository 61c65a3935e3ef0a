import Costwise.Files.Path
import Costwise.Text.Quoted

/-!
# Files on a Disk

The files that the program can see. They are told apart by the folder that a
path starts from: the one the program was started in, the home folder, or the
top of the disk. A disk is a value, so reading is a function of it and writing
gives a new one, and a run of the whole program is a function too.

Every operation walks a path part by part. It can fail because something on
the way is missing or is no folder, and then for a reason of its own.

## Main definitions

* `Item`: A file or a folder.
* `Place`: Where an item is.
* `Disk`: The items, and how the folders are shown.
* `Disk.find`: Walks a path.
* `Disk.read?`, `Disk.write`, `Disk.append`: Reading and writing files.
* `Disk.makeFolders`: Makes a folder with all folders above it.
* `FileError`: Why an operation failed.
-/

namespace Costwise

namespace Files

/-- What stands at a place. -/
inductive Item where
  /-- A file with its bytes. -/
  | file (bytes : List UInt8)
  /-- A folder. -/
  | folder
  deriving DecidableEq, Repr

/-- The folder that a place is below. -/
inductive Root where
  /-- The folder that the program was started in. -/
  | working
  /-- The home folder. -/
  | home
  /-- A folder around the one that the program was started in, so many levels up. -/
  | around (levels : Nat)
  /-- The top of the disk. -/
  | top
  deriving DecidableEq, Repr

/-- The folder around one that paths start from. -/
def Root.parent : Root → Root
  | working => around 1
  | around levels => around (levels + 1)
  | home => top
  | top => top

/-- Where an item is. -/
structure Place where
  /-- The folder it is below. -/
  root : Root
  /-- The parts of the way there. -/
  parts : List String
  deriving DecidableEq, Repr

/-- The place of an item of a folder. -/
def Place.child (place : Place) (name : String) : Place :=
  { place with parts := place.parts ++ [name] }

/-- The place of the folder around. -/
def Place.parent (place : Place) : Place :=
  if place.parts = [] then { place with root := place.root.parent }
  else { place with parts := place.parts.dropLast }

/-- Why a walk or an operation failed. -/
inductive Reason where
  /-- Something on the way is missing. -/
  | missing
  /-- Something is there already. -/
  | occupied
  /-- Something on the way is a file. -/
  | notFolder
  /-- A folder is where a file should be. -/
  | isFolder
  deriving DecidableEq, Repr

namespace Reason

/-- The number of a reason. -/
def number : Reason → Nat
  | missing => 2
  | occupied => 17
  | notFolder => 20
  | isFolder => 21

/-- The words of a reason. -/
def words : Reason → String
  | missing => "No such file or directory"
  | occupied => "File exists"
  | notFolder => "Not a directory"
  | isFolder => "Is a directory"

end Reason

/-- Why an operation on a path failed. -/
structure FileError where
  /-- The reason. -/
  reason : Reason
  /-- The path as it was used. -/
  path : String
  deriving DecidableEq, Repr

/-- What is said about a failure. -/
def FileError.message (error : FileError) : String :=
  s!"[Errno {error.reason.number}] {error.reason.words}: {Text.quote error.path}"

/-- The files that the program can see. -/
structure Disk where
  /-- How the folder is shown that the program was started in. -/
  here : String
  /-- How the home folder is shown. -/
  home : String
  /-- Everything below the folders that paths start from. -/
  items : List (Place × Item) := []

namespace Disk

/-- How a folder is shown that paths start from. -/
def rootText (disk : Disk) : Root → String
  | .working => disk.here
  | .home => disk.home
  | .around levels => "/".intercalate (disk.here :: List.replicate levels "..")
  | .top => ""

/-- How a place is shown. -/
def placeText (disk : Disk) (place : Place) : String :=
  "/".intercalate (disk.rootText place.root :: place.parts)

/-- What stands at a place. -/
def item? (disk : Disk) (place : Place) : Option Item :=
  if place.parts = [] then some .folder else disk.items.lookup place

/-- Puts an item at a place, instead of what was there. -/
def put (disk : Disk) (place : Place) (item : Item) : Disk :=
  if disk.items.any (·.1 == place) then
    { disk with items := disk.items.map fun entry =>
        if entry.1 = place then (place, item) else entry }
  else { disk with items := disk.items ++ [(place, item)] }

/-- Takes away what is at a place. -/
def remove (disk : Disk) (place : Place) : Disk :=
  { disk with items := disk.items.filter (·.1 != place) }

/-- Puts an item at a place, with the folders that lead there. -/
def install (disk : Disk) (place : Place) (item : Item) : Disk :=
  let above := (List.range place.parts.length).tail.map fun count =>
    { place with parts := place.parts.take count }
  (above.foldl (fun disk folder => disk.put folder .folder) disk).put place item

/-- Walks the parts of a path from a place. Everything on the way has to be a folder. -/
def descend (disk : Disk) (place : Place) : List String → Except Reason Place
  | [] => .ok place
  | part :: parts =>
    match disk.item? place with
    | some .folder =>
      disk.descend (if part = ".." then place.parent else place.child part) parts
    | some (.file _) => .error .notFolder
    | none => .error .missing

/-- The place that a path leads to, whether or not something stands there. -/
def find (disk : Disk) (path : Path) : Except Reason Place :=
  disk.descend ⟨if path.anchor = "" then .working else .top, []⟩ path.parts

/-- What a path leads to. -/
def at? (disk : Disk) (path : Path) : Option Item :=
  match disk.find path with
  | .ok place => disk.item? place
  | .error _ => none

/-- The bytes of a file. -/
def bytes? (disk : Disk) (place : Place) : Option (List UInt8) :=
  match disk.item? place with
  | some (.file bytes) => some bytes
  | _ => none

/-- Whether a path leads to a folder. -/
def hasFolder (disk : Disk) (path : Path) : Bool :=
  disk.at? path == some .folder

/-- The bytes of the file that a path leads to. -/
def read? (disk : Disk) (path : Path) : Option (List UInt8) :=
  match disk.at? path with
  | some (.file bytes) => some bytes
  | _ => none

/-- The names in a folder, by code point. -/
def names (disk : Disk) (path : Path) : List String :=
  match disk.find path with
  | .ok folder =>
    let inside := disk.items.filterMap fun (place, _) =>
      if place.parent = folder ∧ place.parts ≠ [] then place.parts.getLast? else none
    inside.mergeSort (fun a b => decide (a ≤ b))
  | .error _ => []

/-- Writes a file anew from what was in it. -/
def alter (disk : Disk) (path : Path) (change : List UInt8 → List UInt8) :
    Except Reason Disk := do
  let place ← disk.find path
  match disk.item? place with
  | some .folder => .error .isFolder
  | some (.file bytes) => .ok (disk.put place (.file (change bytes)))
  | none => .ok (disk.put place (.file (change [])))

/-- Writes a file. -/
def write (disk : Disk) (path : Path) (bytes : List UInt8) : Except FileError Disk :=
  (disk.alter path fun _ => bytes).mapError (⟨·, path.text⟩)

/-- Adds to the end of a file. -/
def append (disk : Disk) (path : Path) (bytes : List UInt8) : Except Reason Disk :=
  disk.alter path (· ++ bytes)

/-- Makes a folder. -/
def makeFolder (disk : Disk) (path : Path) : Except Reason Disk := do
  let place ← disk.find path
  match disk.item? place with
  | some _ => .error .occupied
  | none => .ok (disk.put place .folder)

/-- Makes a folder unless it is there, with the folders above it that are missing.
    `levels` bounds how many those can be. -/
def makeFoldersUpTo (disk : Disk) (path : Path) : Nat → Except FileError Disk
  | 0 => .error ⟨.missing, path.text⟩
  | levels + 1 =>
    match disk.makeFolder path with
    | .ok disk => .ok disk
    | .error .missing =>
      match disk.makeFoldersUpTo path.parent levels with
      | .ok disk =>
        match disk.makeFolder path with
        | .ok disk => .ok disk
        | .error reason => if disk.hasFolder path then .ok disk else .error ⟨reason, path.text⟩
      | .error error => .error error
    | .error reason => if disk.hasFolder path then .ok disk else .error ⟨reason, path.text⟩

/-- Makes a folder unless it is there, with the folders above it that are missing. -/
def makeFolders (disk : Disk) (path : Path) : Except FileError Disk :=
  disk.makeFoldersUpTo path (path.parts.length + 1)

/-- What is new or changed since an earlier state. -/
def changes (disk earlier : Disk) : List (Place × Item) :=
  disk.items.filter fun (place, item) => earlier.item? place != some item

/-- The files below the working folder that are new or changed since an earlier
    state, with their paths. -/
def changesSince (disk earlier : Disk) : List (String × List UInt8) :=
  (disk.changes earlier).filterMap fun (place, item) =>
    match place.root, item with
    | .working, .file bytes => some ("/".intercalate place.parts, bytes)
    | _, _ => none

end Disk

end Files

end Costwise
