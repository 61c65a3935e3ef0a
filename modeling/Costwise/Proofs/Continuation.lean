import Costwise.Completion
import Costwise.Proofs.Folders
import Mathlib.Data.List.DropRight

/-!
# Continuing What Is Typed

A proposal for a path is put together from two halves that come from different
places. The folder is taken from what is typed, the name is read from the disk. For
the proposals to be of use they have to be all that there are, each once and in
order, and each has to continue the text that is on the screen.

The halves do not quite fit. A folder is cut off the typed text without the slashes
after it, and one slash is put back when a name is added. So a text is read here as
three pieces: the folder, a number of slashes, and the last part (`Typed`). Every text
can be read in this way, and what becomes of it depends on the pieces only. If the
folder is followed by one slash, or if there is no folder in front of the slashes, the
text comes back as it was. If several slashes follow the folder, a proposal still leads
to its item, but it is written with one slash and does not begin with the text.

All proposals for a text begin in the same way, so they stand in the order of the names.

## Main definitions

* `Typed`: A text as a folder, slashes and a last part.
* `Typed.ofText`: Reads a text.
* `Typed.proposal`: What is proposed for a name.
* `Typed.IsPlain`: The folder is followed by one slash only, if there is a folder.
* `Completes`: An item is one to be proposed.

## Theorems

* `Typed.splitTyped_eq`: A text is split into its pieces.
* `Typed.ofString_proposal`: A proposal is the path of the name in the folder.
* `Typed.prefix_proposal_iff`: Which proposals begin with the text.
* `mem_sources_iff`: The proposals are for the items that complete the text.
* `sources_pairwise`: The proposals are in strict order.
* `sources_continue_iff_plain`: The proposals are complete, in order, and continue plain
  texts only.
-/

namespace Costwise

namespace Completion

open Files

/-- A typed path as three pieces. The folder does not end in a slash, and there are
    slashes after it, unless it is empty. -/
structure Typed where
  /-- The folder, without the slashes after it. -/
  front : List Char
  /-- How many slashes there are between the folder and the last part. -/
  slashes : Nat
  /-- The last part, which is to be completed. -/
  last : List Char
  front_ends : ∀ h : front ≠ [], front.getLast h ≠ '/'
  parted : slashes = 0 → front = []
  last_plain : '/' ∉ last

namespace Typed

/-- What is typed up to the last slash. -/
def stem (typed : Typed) : List Char :=
  typed.front ++ List.replicate typed.slashes '/'

/-- All that is typed. -/
def text (typed : Typed) : String :=
  .ofList (typed.stem ++ typed.last)

/-- The folder that the text is in. -/
def folder (typed : Typed) : Path :=
  .ofString (.ofList typed.stem)

/-- A text up to its last slash is empty if it does not end in a slash. -/
theorem rdropWhile_eq_nil_of_no_slash {chars : List Char}
    (h : (chars.rdropWhile (· != '/')).rtakeWhile (· == '/') = []) :
    chars.rdropWhile (· != '/') = [] := by
  by_contra hne
  have hslash := List.rtakeWhile_eq_nil_iff.mp h hne
  have hother := List.rdropWhile_last_not _ _ hne
  simp only [beq_iff_eq, bne_iff_ne, not_not] at hslash hother
  exact hslash hother

/-- Reads a text from its end. -/
def ofText (text : String) : Typed :=
  let stem := text.toList.rdropWhile (· != '/')
  { front := stem.rdropWhile (· == '/')
    slashes := (stem.rtakeWhile (· == '/')).length
    last := text.toList.rtakeWhile (· != '/')
    front_ends := by
      intro h
      simpa using List.rdropWhile_last_not _ _ h
    parted := by
      intro h
      have hstem : stem = [] := rdropWhile_eq_nil_of_no_slash (List.length_eq_zero_iff.mp h)
      rw [hstem, List.rdropWhile_nil]
    last_plain := by
      intro h
      simpa using List.mem_rtakeWhile_imp h }

theorem stem_ofText (text : String) :
    (ofText text).stem = text.toList.rdropWhile (· != '/') := by
  have hslashes : (text.toList.rdropWhile (· != '/')).rtakeWhile (· == '/')
      = List.replicate (ofText text).slashes '/' :=
    List.eq_replicate_iff.mpr ⟨rfl, fun c hc => by simpa using List.mem_rtakeWhile_imp hc⟩
  rw [stem, ← hslashes]
  exact List.rdropWhile_append_rtakeWhile

theorem stem_append_last (text : String) :
    (ofText text).stem ++ (ofText text).last = text.toList := by
  rw [stem_ofText]
  exact List.rdropWhile_append_rtakeWhile

theorem text_ofText (text : String) : (ofText text).text = text := by
  rw [Typed.text, stem_append_last, String.ofList_toList]

/-- The folder as it is kept while its names are looked at: without slashes at its end,
    unless it has nothing else. -/
def keptFolder (typed : Typed) : List Char :=
  if typed.front = [] then typed.stem else typed.front

/-- What stands before the name in a proposal. -/
def keptStem (typed : Typed) : List Char :=
  if typed.front = [] then typed.stem else typed.front ++ ['/']

/-- The proposal of a name. -/
def proposal (typed : Typed) (name : String) : String :=
  .ofList (typed.keptStem ++ name.toList)

/-- The folder is followed by one slash only, if there is a folder. -/
def IsPlain (typed : Typed) : Prop :=
  typed.front = [] ∨ typed.slashes ≤ 1

instance (typed : Typed) : Decidable typed.IsPlain :=
  inferInstanceAs (Decidable (_ ∨ _))

theorem trimSlashes_stem_ofText (text : String) :
    trimSlashes (ofText text).stem = (ofText text).keptFolder := by
  have hfront : (ofText text).front = (ofText text).stem.rdropWhile (· == '/') := by
    rw [stem_ofText]
    rfl
  have hall : (ofText text).stem.all (· == '/') = true ↔ (ofText text).front = [] := by
    rw [hfront, List.rdropWhile_eq_nil_iff, List.all_eq_true]
  unfold trimSlashes keptFolder
  split
  · rename_i h
    rw [if_pos (hall.mp h)]
  · rename_i h
    rw [if_neg (mt hall.mpr h), hfront]
    rfl

theorem splitTyped_eq (text : String) :
    splitTyped text = (.ofList (ofText text).keptFolder, .ofList (ofText text).last) := by
  have hlast : (text.toList.reverse.takeWhile (· != '/')).reverse = (ofText text).last := rfl
  have hstem : text.toList.take (text.length - (ofText text).last.length)
      = (ofText text).stem := by
    rw [← String.length_toList, ← stem_append_last, List.length_append, Nat.add_sub_cancel,
      List.take_left]
  simp only [splitTyped, hlast, hstem, trimSlashes_stem_ofText]

theorem stem_of_front_eq_nil {typed : Typed} (h : typed.front = []) :
    typed.stem = List.replicate typed.slashes '/' := by
  rw [stem, h, List.nil_append]

/-- A name is joined to the folder with the slashes of the text if there is nothing
    else in it, and with one slash otherwise. -/
theorem joinTyped_keptFolder (typed : Typed) (name : String) :
    joinTyped (.ofList typed.keptFolder) name = typed.proposal name := by
  unfold joinTyped keptFolder proposal keptStem
  by_cases hfront : typed.front = []
  · rw [if_pos hfront, if_pos hfront, stem_of_front_eq_nil hfront, String.ofList_append,
      String.ofList_toList]
    cases typed.slashes with
    | zero => simp
    | succ count => simp [List.getLast?_replicate]
  · have hends := typed.front_ends hfront
    simp [hfront, List.getLast?_eq_getLast_of_ne_nil, hends, String.ofList_append,
      String.append_assoc]

theorem ofString_front_slashes {typed : Typed} (h : typed.front ≠ []) (count : Nat) :
    Path.ofString (.ofList (typed.front ++ List.replicate count '/'))
      = Path.ofString (.ofList typed.front) :=
  Path.ofString_append_slashes (List.getLast_mem h) (typed.front_ends h) count

theorem ofString_keptFolder (typed : Typed) :
    Path.ofString (.ofList typed.keptFolder) = typed.folder := by
  unfold keptFolder folder
  split
  · rfl
  · rename_i hfront
    exact (ofString_front_slashes hfront typed.slashes).symm

theorem ofString_proposal (typed : Typed) {name : String} (h : IsName name) :
    Path.ofString (typed.proposal name) = typed.folder.child name := by
  rw [← ofString_keptFolder]
  unfold proposal keptStem keptFolder
  by_cases hfront : typed.front = []
  · rw [if_pos hfront, if_pos hfront, stem_of_front_eq_nil hfront]
    refine Path.ofString_append_name ?_ h
    cases typed.slashes with
    | zero => exact .inl rfl
    | succ count => exact .inr (by simp [List.getLast?_replicate])
  · rw [if_neg hfront, if_neg hfront, Path.ofString_append_name (.inr (by simp)) h,
      ← ofString_front_slashes hfront 1, List.replicate_one]

/-- A proposal for a name that begins with the last part begins with the whole text,
    unless slashes were lost. -/
theorem prefix_proposal_iff (typed : Typed) {name : String} (h : IsName name)
    (hlast : typed.last <+: name.toList) :
    typed.text.toList <+: (typed.proposal name).toList ↔ typed.IsPlain := by
  rw [Typed.text, proposal, String.toList_ofList, String.toList_ofList]
  unfold keptStem IsPlain
  by_cases hfront : typed.front = []
  · rw [if_pos hfront, List.prefix_append_right_inj]
    exact iff_of_true hlast (.inl hfront)
  · rw [if_neg hfront, stem, List.append_assoc, List.append_assoc, List.prefix_append_right_inj]
    cases hslashes : typed.slashes with
    | zero => exact absurd (typed.parted hslashes) hfront
    | succ count =>
        rw [List.replicate_succ, List.cons_append, List.singleton_append,
          List.cons_prefix_cons]
        cases count with
        | zero => simpa using hlast
        | succ count =>
            -- A second slash would have to be the first character of the name.
            refine iff_of_false (fun ⟨_, hbegins⟩ => h.no_slash (hbegins.subset ?_)) ?_
            · simp
            · simp [hfront]

theorem proposal_lt (typed : Typed) {name other : String} (h : name < other) :
    typed.proposal name < typed.proposal other := by
  rw [String.lt_iff, proposal, proposal, String.toList_ofList, String.toList_ofList]
  exact List.append_left_lt (String.lt_iff.mp h)

end Typed

/-- An item completes what is typed: it is in the folder that is typed, its name begins
    with the last part, it is not hidden, and it is a folder or a source file by its name. -/
structure Completes (disk : Disk) (typed : Typed) (place : Place) (name : String) : Prop where
  leads : disk.find typed.folder = .ok place
  inFolder : disk.item? place = some .folder
  stands : (disk.item? (place.child name)).isSome
  continues : typed.last <+: name.toList
  shown : ¬['.'] <+: name.toList
  suited : disk.item? (place.child name) = some .folder ∨
    ∃ ending ∈ [".js", ".mjs", ".cjs", ".jsx"], ending.toList <:+ name.toList

theorem isCandidate_iff {last : List Char} {name : String} :
    isCandidate (.ofList last) name = true ↔ last <+: name.toList ∧ ¬['.'] <+: name.toList := by
  rw [isCandidate, Bool.and_eq_true, String.toList_ofList, List.isPrefixOf_iff_prefix,
    bne_iff_ne]
  refine and_congr_right fun _ => not_congr ?_
  cases name.toList with
  | nil => simp
  | cons c rest => simp [List.cons_prefix_cons, eq_comm]

theorem isSourceName_iff {name : String} :
    isSourceName name = true ↔
      ∃ ending ∈ [".js", ".mjs", ".cjs", ".jsx"], ending.toList <:+ name.toList := by
  rw [isSourceName, sourceEndings, List.any_eq_true]
  simp only [List.isSuffixOf_iff_suffix]

theorem sources_eq (disk : Disk) (text : String) :
    sources disk text = if disk.hasFolder (Typed.ofText text).folder then
      ((disk.names (Typed.ofText text).folder).filter fun name =>
        isCandidate (.ofList (Typed.ofText text).last) name &&
          (disk.hasFolder (.ofString ((Typed.ofText text).proposal name)) || isSourceName name)).map
        (Typed.ofText text).proposal
    else [] := by
  have hjoin : joinTyped (.ofList (Typed.ofText text).keptFolder) = (Typed.ofText text).proposal :=
    funext (Typed.ofText text).joinTyped_keptFolder
  simp only [sources, Typed.splitTyped_eq, Typed.ofString_keptFolder, hjoin]

section Folder

variable {disk : Disk} {typed : Typed} {place : Place} {name : String}
  (hdisk : disk.WellFormed) (hleads : disk.find typed.folder = .ok place)
  (hfolder : disk.item? place = some .folder)

include hdisk hleads hfolder

theorem find_proposal (hstands : (disk.item? (place.child name)).isSome) :
    disk.find (.ofString (typed.proposal name)) = .ok (place.child name) := by
  have hname : IsName name := hdisk.isName_of_item? hstands
  rw [typed.ofString_proposal hname]
  exact Disk.find_child hleads hfolder hname

theorem hasFolder_proposal (hstands : (disk.item? (place.child name)).isSome) :
    disk.hasFolder (.ofString (typed.proposal name)) = true ↔
      disk.item? (place.child name) = some .folder := by
  rw [Disk.hasFolder_iff, find_proposal hdisk hleads hfolder hstands]
  constructor
  · rintro ⟨_, hfound, hitem⟩
    cases hfound
    exact hitem
  · exact fun hitem => ⟨_, rfl, hitem⟩

/-- What the names of a folder are asked for is what it takes to complete the text. -/
theorem completes_iff :
    Completes disk typed place name ↔ name ∈ disk.names typed.folder ∧
      (isCandidate (.ofList typed.last) name &&
        (disk.hasFolder (.ofString (typed.proposal name)) || isSourceName name)) = true := by
  rw [Disk.mem_names_iff hleads, Bool.and_eq_true, Bool.or_eq_true, isCandidate_iff,
    isSourceName_iff]
  constructor
  · intro h
    rw [hasFolder_proposal hdisk hleads hfolder h.stands]
    exact ⟨h.stands, ⟨h.continues, h.shown⟩, h.suited⟩
  · rintro ⟨hstands, ⟨hcontinues, hshown⟩, hsuited⟩
    rw [hasFolder_proposal hdisk hleads hfolder hstands] at hsuited
    exact ⟨hleads, hfolder, hstands, hcontinues, hshown, hsuited⟩

end Folder

/-- The proposals are for the items that complete what is typed. -/
theorem mem_sources_iff {disk : Disk} (hdisk : disk.WellFormed) {text proposal : String} :
    proposal ∈ sources disk text ↔ ∃ place name,
      Completes disk (.ofText text) place name ∧ proposal = (Typed.ofText text).proposal name := by
  rw [sources_eq]
  constructor
  · intro h
    split at h
    · rename_i hfolder
      rcases Disk.hasFolder_iff.mp hfolder with ⟨place, hleads, hplace⟩
      rcases List.mem_map.mp h with ⟨name, hname, rfl⟩
      rw [List.mem_filter] at hname
      exact ⟨place, name, (completes_iff hdisk hleads hplace).mpr hname, rfl⟩
    · cases h
  · rintro ⟨place, name, h, rfl⟩
    rw [if_pos (Disk.hasFolder_iff.mpr ⟨place, h.leads, h.inFolder⟩)]
    refine List.mem_map_of_mem ?_
    rw [List.mem_filter]
    exact (completes_iff hdisk h.leads h.inFolder).mp h

/-- The names come in strict order, and so do their proposals, since all begin in the
    same way. -/
theorem sources_pairwise {disk : Disk} (hdisk : disk.WellFormed) (text : String) :
    (sources disk text).Pairwise (· < ·) := by
  rw [sources_eq]
  split
  · rename_i hfolder
    rcases Disk.hasFolder_iff.mp hfolder with ⟨place, hleads, _⟩
    refine List.pairwise_map.mpr ?_
    exact ((Disk.names_pairwise hdisk hleads).filter _).imp
      fun h => (Typed.ofText text).proposal_lt h
  · exact List.Pairwise.nil

/-- The proposals for a text on a well-formed disk. They are in strict order by code
    point, so none comes twice. They are for exactly the items that complete the text, and
    each leads to its item. And whatever is proposed begins with the text if and only if
    the text is plain. -/
theorem sources_continue_iff_plain (disk : Disk) (hdisk : disk.WellFormed) (text : String) :
    (Typed.ofText text).text = text ∧
      (sources disk text).Pairwise (· < ·) ∧
      (∀ proposal, proposal ∈ sources disk text ↔ ∃ place name,
        Completes disk (.ofText text) place name ∧
          proposal = (Typed.ofText text).proposal name) ∧
      (∀ place name, Completes disk (.ofText text) place name →
        disk.find (.ofString ((Typed.ofText text).proposal name)) = .ok (place.child name)) ∧
      ∀ proposal ∈ sources disk text,
        (text.toList <+: proposal.toList ↔ (Typed.ofText text).IsPlain) := by
  refine ⟨Typed.text_ofText text, sources_pairwise hdisk text,
    fun _ => mem_sources_iff hdisk, ?_, ?_⟩
  · intro place name h
    exact find_proposal hdisk h.leads h.inFolder h.stands
  · intro proposal hproposal
    rcases (mem_sources_iff hdisk).mp hproposal with ⟨place, name, h, rfl⟩
    have hbegins := (Typed.ofText text).prefix_proposal_iff
      (hdisk.isName_of_item? h.stands) h.continues
    rwa [Typed.text_ofText] at hbegins

namespace DoubledSlash

/-- A folder with a source file, a hidden file and another folder in it. -/
def disk : Disk :=
  let empty : Disk := { here := "/work", home := "/home" }
  ((empty.install ⟨.working, ["src", "more"]⟩ .folder).install
    ⟨.working, ["src", ".main.js"]⟩ (.file [])).install ⟨.working, ["src", "main.js"]⟩ (.file [])

theorem wellFormed_disk : disk.WellFormed := by
  have hempty : Disk.WellFormed { here := "/work", home := "/home" } :=
    ⟨List.nodup_nil, fun _ h => absurd h List.not_mem_nil⟩
  exact ((hempty.install (by decide) _).install (by decide) _).install (by decide) _

theorem completes_main {text : String}
    (hfolder : (Typed.ofText text).folder = ⟨"", ["src"]⟩)
    (hlast : (Typed.ofText text).last = ['m']) :
    Completes disk (.ofText text) ⟨.working, ["src"]⟩ "main.js" where
  leads := by
    rw [hfolder]
    with_unfolding_all rfl
  inFolder := by decide +kernel
  stands := by decide +kernel
  continues := by
    rw [hlast]
    decide +kernel
  shown := by decide +kernel
  suited := by decide +kernel

/-- The same file is proposed in the same way after one slash and after two. -/
theorem second_slash_lost :
    disk.WellFormed ∧
      ("src/main.js" ∈ sources disk "src/m" ∧ "src/m".toList <+: "src/main.js".toList) ∧
      "src/main.js" ∈ sources disk "src//m" ∧ ¬"src//m".toList <+: "src/main.js".toList := by
  rcases sources_continue_iff_plain disk wellFormed_disk "src/m" with ⟨-, -, hone, -, honce⟩
  rcases sources_continue_iff_plain disk wellFormed_disk "src//m" with ⟨-, -, htwo, -, htwice⟩
  have hmain : "src/main.js" ∈ sources disk "src/m" :=
    (hone _).mpr ⟨_, _, completes_main (by decide +kernel) (by decide +kernel),
      by with_unfolding_all rfl⟩
  have hmain' : "src/main.js" ∈ sources disk "src//m" :=
    (htwo _).mpr ⟨_, _, completes_main (by decide +kernel) (by decide +kernel),
      by with_unfolding_all rfl⟩
  have hplain : (Typed.ofText "src/m").IsPlain := by decide +kernel
  have hdoubled : ¬(Typed.ofText "src//m").IsPlain := by decide +kernel
  exact ⟨wellFormed_disk, ⟨hmain, (honce _ hmain).mpr hplain⟩, hmain',
    mt (htwice _ hmain').mp hdoubled⟩

end DoubledSlash

end Completion

end Costwise
