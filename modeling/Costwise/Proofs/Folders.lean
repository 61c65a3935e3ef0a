import Costwise.Files.Disk
import Mathlib.Data.List.Nodup
import Mathlib.Data.List.TakeWhile

/-!
# What Is in a Folder

A disk is a list of places with their items, and a folder is nowhere in one piece: its
names are gathered from all places, and a path finds its way by asking for one place
after the other. This file says that the two agree. The names that a folder is said
to have are exactly those that a path through the folder arrives at.

Not every list is a disk in that sense. Two items at one place would give a name
twice, and a name with a slash in it could not be part of a path. `Disk.WellFormed`
rules both out, and putting items on a disk keeps it that way.

On the side of paths there is the text. A path is cleaned when it is read, so a text
may be extended by a name only where a slash ends it (`ofString_append_name`), and a
number of slashes at its end counts for nothing (`ofString_append_slashes`). The one
exception is a text of nothing but slashes, where they tell the top of the disk.

## Main definitions

* `IsName`: What the name of an item can be.
* `Disk.places`: The places where something stands.
* `Disk.WellFormed`: The places are distinct and have proper names.
* `Path.child`: A path with one more part.

## Theorems

* `WellFormed.install`: Putting items on a disk keeps it well-formed.
* `mem_names_iff`: The names in a folder are those of the items in it.
* `names_pairwise`: The names are in strict order.
* `find_child`: A path goes on to any item of the folder that it leads to.
* `Path.ofString_append_name`: A name after a slash is one more part.
* `Path.ofString_append_slashes`: Slashes at the end count for nothing.
-/

namespace Costwise

namespace Files

/-- What the name of an item can be. A slash ends a name in a path, and one or two dots
    mean something else there. -/
structure IsName (name : String) : Prop where
  ne_empty : name ≠ ""
  ne_dot : name ≠ "."
  ne_dots : name ≠ ".."
  no_slash : '/' ∉ name.toList

instance (name : String) : Decidable (IsName name) :=
  decidable_of_iff (name ≠ "" ∧ name ≠ "." ∧ name ≠ ".." ∧ '/' ∉ name.toList)
    ⟨fun h => ⟨h.1, h.2.1, h.2.2.1, h.2.2.2⟩,
      fun h => ⟨h.ne_empty, h.ne_dot, h.ne_dots, h.no_slash⟩⟩

namespace Place

@[simp]
theorem parts_child (place : Place) (name : String) :
    (place.child name).parts = place.parts ++ [name] :=
  rfl

@[simp]
theorem parent_child (place : Place) (name : String) : (place.child name).parent = place := by
  simp [parent, child]

/-- The name of a place, if it is one in a given folder. -/
def nameIn? (folder place : Place) : Option String :=
  if place.parent = folder ∧ place.parts ≠ [] then place.parts.getLast? else none

theorem nameIn?_eq_some_iff {folder place : Place} {name : String} :
    nameIn? folder place = some name ↔ place = folder.child name := by
  constructor
  · intro h
    unfold nameIn? at h
    split at h
    · rename_i hin
      rcases hin with ⟨rfl, hparts⟩
      have hlast : place.parts.dropLast ++ [name] = place.parts :=
        List.dropLast_append_getLast? name h
      rw [parent, if_neg hparts, child, hlast]
    · cases h
  · rintro rfl
    simp [nameIn?]

end Place

/-- A path with one more part. -/
def Path.child (path : Path) (name : String) : Path :=
  { path with parts := path.parts ++ [name] }

namespace Disk

/-- The places where something stands. -/
def places (disk : Disk) : List Place :=
  disk.items.map (·.1)

/-- Nothing stands at the same place as something else, and all places have proper
    names on the way to them. -/
structure WellFormed (disk : Disk) : Prop where
  distinct : disk.places.Nodup
  named : ∀ place ∈ disk.places, ∀ name ∈ place.parts, IsName name

/-- What is put somewhere takes the place of what was there, or a new one. -/
theorem places_put (disk : Disk) (place : Place) (item : Item) :
    (disk.put place item).places
      = if place ∈ disk.places then disk.places else disk.places ++ [place] := by
  have hthere : disk.items.any (·.1 == place) = true ↔ place ∈ disk.places := by
    simp [places]
  unfold put
  split
  · rename_i h
    rw [if_pos (hthere.mp h), places, places, List.map_map]
    refine List.map_congr_left fun entry _ => ?_
    rw [Function.comp_apply]
    split
    · rename_i heq
      exact heq.symm
    · rfl
  · rename_i h
    rw [if_neg (mt hthere.mpr h), places, places, List.map_append]
    rfl

namespace WellFormed

theorem put {disk : Disk} (h : disk.WellFormed) {place : Place}
    (hplace : ∀ name ∈ place.parts, IsName name) (item : Item) :
    (disk.put place item).WellFormed := by
  by_cases hthere : place ∈ disk.places
  · have hplaces : (disk.put place item).places = disk.places := by
      rw [places_put, if_pos hthere]
    exact ⟨hplaces ▸ h.distinct, hplaces ▸ h.named⟩
  · have hplaces : (disk.put place item).places = disk.places ++ [place] := by
      rw [places_put, if_neg hthere]
    constructor
    · rw [hplaces, List.nodup_append]
      refine ⟨h.distinct, List.nodup_singleton place, ?_⟩
      rintro _ hother other hnew rfl
      rw [List.mem_singleton] at hnew
      exact hthere (hnew ▸ hother)
    · intro other hother
      rw [hplaces, List.mem_append, List.mem_singleton] at hother
      rcases hother with hother | rfl
      · exact h.named other hother
      · exact hplace

theorem foldl_put {disk : Disk} (h : disk.WellFormed) {folders : List Place}
    (hfolders : ∀ folder ∈ folders, ∀ name ∈ folder.parts, IsName name) :
    (folders.foldl (fun disk folder => disk.put folder .folder) disk).WellFormed := by
  induction folders generalizing disk with
  | nil => exact h
  | cons folder rest ih =>
      rw [List.forall_mem_cons] at hfolders
      exact ih (h.put hfolders.1 .folder) hfolders.2

/-- Installing an item leaves the disk well-formed. The folders above it have no names
    but those on the way to it. -/
theorem install {disk : Disk} (h : disk.WellFormed) {place : Place}
    (hplace : ∀ name ∈ place.parts, IsName name) (item : Item) :
    (disk.install place item).WellFormed := by
  refine (h.foldl_put ?_).put hplace item
  intro folder hfolder name hname
  rcases List.mem_map.mp hfolder with ⟨count, _, rfl⟩
  exact hplace name (List.mem_of_mem_take hname)

end WellFormed

theorem item?_child_isSome {disk : Disk} {folder : Place} {name : String} :
    (disk.item? (folder.child name)).isSome ↔ folder.child name ∈ disk.places := by
  have hparts : (folder.child name).parts ≠ [] := by simp
  rw [item?, if_neg hparts, List.lookup_isSome_iff, places, List.mem_map]
  constructor
  · rintro ⟨entry, hentry, hplace⟩
    exact ⟨entry, hentry, (beq_iff_eq.mp hplace).symm⟩
  · rintro ⟨entry, hentry, hplace⟩
    exact ⟨entry, hentry, beq_iff_eq.mpr hplace.symm⟩

theorem names_of_find {disk : Disk} {path : Path} {folder : Place}
    (h : disk.find path = .ok folder) :
    disk.names path
      = (disk.places.filterMap folder.nameIn?).mergeSort fun a b => decide (a ≤ b) := by
  simp only [names, h, places, List.filterMap_map]
  rfl

/-- The names in a folder are those of the items in it. -/
theorem mem_names_iff {disk : Disk} {path : Path} {folder : Place}
    (h : disk.find path = .ok folder) {name : String} :
    name ∈ disk.names path ↔ (disk.item? (folder.child name)).isSome := by
  rw [names_of_find h, List.mem_mergeSort, List.mem_filterMap, item?_child_isSome]
  constructor
  · rintro ⟨place, hplace, hname⟩
    exact Place.nameIn?_eq_some_iff.mp hname ▸ hplace
  · intro hplace
    exact ⟨_, hplace, Place.nameIn?_eq_some_iff.mpr rfl⟩

theorem WellFormed.isName_of_item? {disk : Disk} (h : disk.WellFormed) {folder : Place}
    {name : String} (hitem : (disk.item? (folder.child name)).isSome) : IsName name :=
  h.named _ (item?_child_isSome.mp hitem) name (by simp)

/-- A folder has each name once, and names them by code point. -/
theorem names_pairwise {disk : Disk} (h : disk.WellFormed) {path : Path} {folder : Place}
    (hfind : disk.find path = .ok folder) : (disk.names path).Pairwise (· < ·) := by
  -- Places in one folder differ in their names, so distinct places give distinct names.
  have hnodup : (disk.names path).Nodup := by
    rw [names_of_find hfind, (List.mergeSort_perm _ _).nodup_iff]
    refine h.distinct.filterMap fun place other name hplace hother => ?_
    rw [Place.nameIn?_eq_some_iff.mp hplace, Place.nameIn?_eq_some_iff.mp hother]
  have hsorted : (disk.names path).Pairwise fun a b => decide (a ≤ b) = true := by
    rw [names_of_find hfind]
    refine List.pairwise_mergeSort (fun a b c hab hbc => ?_) (fun a b => ?_) _
    · exact decide_eq_true (String.le_trans (of_decide_eq_true hab) (of_decide_eq_true hbc))
    · rw [Bool.or_eq_true, decide_eq_true_iff, decide_eq_true_iff]
      exact String.le_total a b
  refine hsorted.imp₂ (fun a b hle hne => ?_) hnodup
  exact String.not_le.mp fun hback => hne (String.le_antisymm (of_decide_eq_true hle) hback)

theorem descend_append (disk : Disk) (place : Place) (parts more : List String) :
    disk.descend place (parts ++ more)
      = (disk.descend place parts).bind fun found => disk.descend found more := by
  induction parts generalizing place with
  | nil => rfl
  | cons part rest ih =>
      rw [List.cons_append, descend, descend]
      cases disk.item? place with
      | none => rfl
      | some item =>
          cases item with
          | file bytes => rfl
          | folder => exact ih _

theorem hasFolder_iff {disk : Disk} {path : Path} :
    disk.hasFolder path = true ↔
      ∃ place, disk.find path = .ok place ∧ disk.item? place = some .folder := by
  rw [hasFolder, beq_iff_eq, at?]
  cases disk.find path with
  | error reason => simp
  | ok place => simp

/-- A path that leads to a folder goes on to the items in it. -/
theorem find_child {disk : Disk} {path : Path} {folder : Place}
    (hfind : disk.find path = .ok folder) (hfolder : disk.item? folder = some .folder)
    {name : String} (hname : IsName name) :
    disk.find (path.child name) = .ok (folder.child name) := by
  have hstep : disk.descend folder [name] = .ok (folder.child name) := by
    simp only [descend, hfolder, if_neg hname.ne_dots]
  unfold find at hfind ⊢
  rw [Path.child, descend_append, hfind]
  exact hstep

end Disk

namespace Path

theorem partsOf_append_slash (front back : List Char) :
    partsOf (front ++ '/' :: back) = partsOf front ++ partsOf back := by
  have hsplit : (front ++ '/' :: back).splitOn '/' = front.splitOn '/' ++ back.splitOn '/' :=
    List.splitOnP_append_cons front back (beq_self_eq_true '/')
  rw [partsOf, hsplit, List.map_append, List.filter_append]
  rfl

theorem partsOf_nil : partsOf [] = [] := by
  decide

theorem partsOf_slashes (count : Nat) : partsOf (List.replicate count '/') = [] := by
  induction count with
  | zero => exact partsOf_nil
  | succ count ih =>
      have hcons := partsOf_append_slash [] (List.replicate count '/')
      rwa [partsOf_nil, ih] at hcons

theorem partsOf_name {name : String} (h : IsName name) : partsOf name.toList = [name] := by
  rw [partsOf, List.splitOn_eq_singleton h.no_slash]
  simp [String.ofList_toList, h.ne_empty, h.ne_dot]

theorem takeWhile_slash_eq_nil {chars : List Char} (h : ∀ rest, chars = '/' :: rest → False) :
    chars.takeWhile (· == '/') = [] := by
  cases chars with
  | nil => rfl
  | cons c rest =>
      have hc : (c == '/') = false := beq_false_of_ne fun heq => h rest (heq ▸ rfl)
      rw [List.takeWhile_cons, hc]
      rfl

/-- Only the slashes in front matter for where a path starts. -/
theorem anchorOf_takeWhile (chars : List Char) :
    anchorOf (chars.takeWhile (· == '/')) = anchorOf chars := by
  fun_cases anchorOf chars with
  | case1 rest => simp [anchorOf]
  | case2 rest h =>
      rw [List.takeWhile_cons_of_pos rfl, List.takeWhile_cons_of_pos rfl,
        takeWhile_slash_eq_nil h]
      rfl
  | case3 rest _ h =>
      rw [List.takeWhile_cons_of_pos rfl, takeWhile_slash_eq_nil h]
      rfl
  | case4 _ _ _ h =>
      rw [takeWhile_slash_eq_nil h]
      rfl

theorem anchorOf_append_name (stem : List Char) {name : String} (h : IsName name) :
    anchorOf (stem ++ name.toList) = anchorOf stem := by
  have hname : name.toList.takeWhile (· == '/') = [] := by
    refine takeWhile_slash_eq_nil fun rest hrest => h.no_slash ?_
    rw [hrest]
    exact List.mem_cons_self
  rw [← anchorOf_takeWhile, List.takeWhile_append, hname, List.append_nil]
  split
  · rfl
  · exact anchorOf_takeWhile stem

theorem anchorOf_append_of_mem {front : List Char} {c : Char} (hmem : c ∈ front) (hc : c ≠ '/')
    (back : List Char) : anchorOf (front ++ back) = anchorOf front := by
  have hshort : ¬(front.takeWhile (· == '/')).length = front.length := by
    intro hlength
    have hall := (List.takeWhile_prefix (· == '/')).eq_of_length hlength
    rw [← hall] at hmem
    exact hc (beq_iff_eq.mp (List.mem_takeWhile_imp (p := (· == '/')) hmem))
  rw [← anchorOf_takeWhile, List.takeWhile_append, if_neg hshort, anchorOf_takeWhile]

/-- A name is one more part after a slash, and the first part of an empty text. -/
theorem ofString_append_name {stem : List Char} (hstem : stem = [] ∨ stem.getLast? = some '/')
    {name : String} (hname : IsName name) :
    ofString (.ofList (stem ++ name.toList)) = (ofString (.ofList stem)).child name := by
  have hparts : partsOf (stem ++ name.toList) = partsOf stem ++ [name] := by
    rcases hstem with rfl | hlast
    · rw [List.nil_append, partsOf_name hname, partsOf_nil, List.nil_append]
    · -- The slash is cut off the end, to have the text as two parts around it.
      rw [← List.dropLast_append_getLast? '/' hlast, List.append_assoc, List.singleton_append,
        partsOf_append_slash, partsOf_append_slash, partsOf_name hname, partsOf_nil,
        List.append_nil]
  simp only [ofString, child, String.toList_ofList, anchorOf_append_name stem hname, hparts]

/-- Slashes at the end count for nothing, if there is anything else. -/
theorem ofString_append_slashes {front : List Char} {c : Char} (hmem : c ∈ front) (hc : c ≠ '/')
    (count : Nat) :
    ofString (.ofList (front ++ List.replicate count '/')) = ofString (.ofList front) := by
  have hparts : partsOf (front ++ List.replicate count '/') = partsOf front := by
    cases count with
    | zero => rw [List.replicate_zero, List.append_nil]
    | succ count =>
        rw [List.replicate_succ, partsOf_append_slash, partsOf_slashes, List.append_nil]
  simp only [ofString, String.toList_ofList, anchorOf_append_of_mem hmem hc, hparts]

end Path

end Files

end Costwise
