import Costwise.Proofs.Precedence
import Mathlib.Data.List.Basic

/-!
# Reading Settings Again

Reading works on a copy of the data it is given. The copy is shallow: an object
under `display` is the same object in both, and direct settings are moved into it.
So data may look different after it was read, whether it was accepted or not.

What changes is little. No key comes or goes at the top, and no value but that of
`display` is another one afterwards; the object there has taken up the panels that
are set directly. Data in which it says the same already is left alone, and so is
data without such an object, for then the panels go into an object of the copy.

Because the direct settings stay where they were, they are moved again when the
data is read again, and find in place what they brought the first time. That is
why the second reading ends as the first and changes nothing.

Settings that are written out and read back are another second reading. Nothing is
set directly in what is written, so the display has to come back as it is. A choice
of panels does. Anything else does unless it is an object, which would be taken for
panels, and reading never leaves an object there (`IsSettled`).

## Main definitions

* `Settings.IsSettled`: What stands for the display is panels or no object.
* `Settings.normalized`: Data as it is written out once it was read.

## Theorems

* `moveInto_eq_self_iff`: Moving changes nothing if all is in place.
* `moveDirect_dataAfter`: Data that was read is moved to the same places again.
* `ofObject_again`: Reading again ends as before.
* `data_kept_iff`: Which data is left alone, and what changes in the rest.
* `ofObject_toObject`: Settled settings are read back as they are.
* `written_read_back`: What was read can be written out and read back.
-/

namespace Costwise

namespace Settings

section InPlace

variable {moved members : Keyed Json}

/-- Moving changes nothing if and only if everything that is moved is in place. -/
theorem moveInto_eq_self_iff (hnodup : (Keyed.keys moved).Nodup) :
    moveInto moved members = members ↔
      ∀ key value, Keyed.get? moved key = some value → Keyed.get? members key = some value := by
  constructor
  · intro h key value hmoved
    rw [← h, get?_moveInto hnodup, hmoved, Option.some_or]
  · intro h
    induction moved with
    | nil => rfl
    | cons entry rest ih =>
        rcases entry with ⟨first, value⟩
        rw [Keyed.keys_cons, List.nodup_cons] at hnodup
        have hfirst : Keyed.put first value members = members := by
          refine (Keyed.put_eq_self_iff _ _ _).mpr (h first value ?_)
          rw [Keyed.get?_cons, if_pos rfl]
        rw [moveInto_cons, hfirst]
        refine ih hnodup.2 fun key found hfound => h key found ?_
        -- A key that comes later is not the first one.
        have hkey : key ≠ first := by
          rintro rfl
          rw [Keyed.get?_eq_none_of_not_mem_keys hnodup.1] at hfound
          cases hfound
        rw [Keyed.get?_cons, if_neg hkey, hfound]

theorem moveInto_moveInto (hnodup : (Keyed.keys moved).Nodup) :
    moveInto moved (moveInto moved members) = moveInto moved members := by
  rw [moveInto_eq_self_iff hnodup]
  intro key value hvalue
  rw [get?_moveInto hnodup, hvalue, Option.some_or]

theorem keys_prefix_moveInto (moved members : Keyed Json) :
    Keyed.keys members <+: Keyed.keys (moveInto moved members) := by
  induction moved generalizing members with
  | nil => exact List.prefix_rfl
  | cons entry rest ih =>
      rcases entry with ⟨first, value⟩
      have hput : Keyed.keys members <+: Keyed.keys (Keyed.put first value members) := by
        rw [Keyed.keys_put]
        split
        · exact List.prefix_rfl
        · exact List.prefix_append _ _
      exact hput.trans (ih _)

end InPlace

section Afterwards

variable {data members : Keyed Json}

theorem dataAfter_of_get? (h : Keyed.get? data "display" = some (.obj members)) :
    dataAfter data
      = Keyed.put "display" (.obj (moveInto (directPanels data) members)) data := by
  rw [dataAfter, h]

theorem dataAfter_of_not_hasObject (h : ¬HasObject data) : dataAfter data = data := by
  rw [dataAfter]
  split
  · next members hmembers => exact absurd ⟨members, hmembers⟩ h
  · rfl

theorem keys_dataAfter (data : Keyed Json) : Keyed.keys (dataAfter data) = Keyed.keys data := by
  by_cases hobject : HasObject data
  · obtain ⟨members, hmembers⟩ := hobject
    have hmem : "display" ∈ Keyed.keys data :=
      Keyed.mem_keys_of_get? (by rw [hmembers, Option.isSome_some])
    rw [dataAfter_of_get? hmembers, Keyed.keys_put, if_pos hmem]
  · rw [dataAfter_of_not_hasObject hobject]

theorem get?_dataAfter_of_ne {key : String} (h : key ≠ "display") :
    Keyed.get? (dataAfter data) key = Keyed.get? data key := by
  by_cases hobject : HasObject data
  · obtain ⟨members, hmembers⟩ := hobject
    rw [dataAfter_of_get? hmembers, Keyed.get?_put_of_ne _ _ h]
  · rw [dataAfter_of_not_hasObject hobject]

theorem get?_display_dataAfter (h : Keyed.get? data "display" = some (.obj members)) :
    Keyed.get? (dataAfter data) "display"
      = some (.obj (moveInto (directPanels data) members)) := by
  rw [dataAfter_of_get? h, Keyed.get?_put_self]

/-- What is set directly is still set directly afterwards. -/
theorem directPanels_dataAfter (data : Keyed Json) :
    directPanels (dataAfter data) = directPanels data := by
  refine List.filterMap_congr fun key hkey => ?_
  have hne : key ≠ "display" := by
    rintro rfl
    exact absurd hkey (by decide)
  rw [get?_dataAfter_of_ne hne]

theorem dataAfter_dataAfter (data : Keyed Json) : dataAfter (dataAfter data) = dataAfter data := by
  by_cases hobject : HasObject data
  · -- The second time, the object under `display` has what is moved into it.
    obtain ⟨members, hmembers⟩ := hobject
    rw [dataAfter_of_get? (get?_display_dataAfter hmembers), directPanels_dataAfter,
      moveInto_moveInto (nodup_keys_directPanels data), dataAfter_of_get? hmembers, Keyed.put_put]
  · rw [dataAfter_of_not_hasObject hobject, dataAfter_of_not_hasObject hobject]

/-- Data is left alone if and only if an object under `display` has every panel that is
    set directly, with the same value. -/
theorem dataAfter_eq_self_iff :
    dataAfter data = data ↔ ∀ members, Keyed.get? data "display" = some (.obj members) →
      ∀ key ∈ Panels.keys, ∀ value, Keyed.get? data key = some value →
        Keyed.get? members key = some value := by
  by_cases hobject : HasObject data
  · obtain ⟨members, hmembers⟩ := hobject
    have hplace : dataAfter data = data ↔ moveInto (directPanels data) members = members := by
      rw [dataAfter_of_get? hmembers, Keyed.put_eq_self_iff, hmembers]
      simp only [Option.some.injEq, Json.obj.injEq, eq_comm]
    rw [hplace, moveInto_eq_self_iff (nodup_keys_directPanels data)]
    constructor
    · intro hin others hothers key hkey value hvalue
      rw [hmembers] at hothers
      rw [← Json.obj.inj (Option.some.inj hothers)]
      refine hin key value ?_
      rw [get?_directPanels, if_pos hkey, hvalue]
    · intro hin key value hvalue
      rw [get?_directPanels] at hvalue
      split at hvalue
      · next hkey => exact hin members hmembers key hkey value hvalue
      · cases hvalue
  · constructor
    · exact fun _ members hmembers => absurd ⟨members, hmembers⟩ hobject
    · exact fun _ => dataAfter_of_not_hasObject hobject

theorem movedDisplay?_dataAfter (data : Keyed Json) :
    movedDisplay? (dataAfter data) = movedDisplay? data := by
  by_cases hobject : HasObject data
  · obtain ⟨members, hmembers⟩ := hobject
    rw [movedDisplay?, movedDisplay?, directPanels_dataAfter,
      displayObject_of_get? (get?_display_dataAfter hmembers), displayObject_of_get? hmembers,
      moveInto_moveInto (nodup_keys_directPanels data)]
  · rw [dataAfter_of_not_hasObject hobject]

theorem unmoved_put_display (data : Keyed Json) (value : Json) :
    unmoved (Keyed.put "display" value data) = Keyed.put "display" value (unmoved data) :=
  Keyed.filter_put (fun key => !("format" :: Panels.keys).contains key) data value (by decide)

/-- Data that was read is moved to the same places again. -/
theorem moveDirect_dataAfter (data : Keyed Json) :
    moveDirect (dataAfter data) = moveDirect data := by
  by_cases hkept : dataAfter data = data
  · rw [hkept]
  · -- Something was moved, so the display is overwritten once more, with the same object.
    have hobject : HasObject data :=
      Classical.byContradiction fun hnone => hkept (dataAfter_of_not_hasObject hnone)
    obtain ⟨members, hmembers⟩ := hobject
    have hdirect : directPanels data ≠ [] := by
      intro hnil
      rw [dataAfter_of_get? hmembers, hnil] at hkept
      exact hkept ((Keyed.put_eq_self_iff _ _ _).mpr hmembers)
    have hmoved : movedDisplay? data
        = some (.obj (moveInto (directPanels data) (displayObject data))) := by
      rw [movedDisplay?, List.isEmpty_eq_false_iff.mpr hdirect]
      rfl
    rw [moveDirect_eq, moveDirect_eq, get?_dataAfter_of_ne (by decide), movedDisplay?_dataAfter,
      hmoved, dataAfter_of_get? hmembers, unmoved_put_display, Keyed.putGiven_some,
      Keyed.putGiven_some, Keyed.put_put]

/-- Reading the same data again, as the first reading has left it, ends as before and
    changes nothing more. -/
theorem ofObject_again (data : Keyed Json) : ofObject (ofObject data).2 = ofObject data := by
  have hafter : (ofObject data).2 = dataAfter data := rfl
  rw [hafter, ofObject, ofObject, moveDirect_dataAfter, dataAfter_dataAfter]

/-- Which data is left alone, whether it is accepted or not, and what changes in the
    rest. At the top there are the same keys in the same order, and only `display` may
    have another value: an object there keeps its keys, with new ones behind them, and
    takes over the panels that are set directly. -/
theorem data_kept_iff (data : Keyed Json) :
    ((ofObject data).2 = data ↔ ∀ members, Keyed.get? data "display" = some (.obj members) →
      ∀ key ∈ Panels.keys, ∀ value, Keyed.get? data key = some value →
        Keyed.get? members key = some value) ∧
    Keyed.keys (ofObject data).2 = Keyed.keys data ∧
    (∀ key, key ≠ "display" → Keyed.get? (ofObject data).2 key = Keyed.get? data key) ∧
    ∀ members, Keyed.get? data "display" = some (.obj members) →
      ∃ after, Keyed.get? (ofObject data).2 "display" = some (.obj after) ∧
        Keyed.keys members <+: Keyed.keys after ∧
        ∀ key, Keyed.get? after key = if key ∈ Panels.keys ∧ Keyed.has data key
          then Keyed.get? data key else Keyed.get? members key := by
  refine ⟨dataAfter_eq_self_iff, keys_dataAfter data, fun key => get?_dataAfter_of_ne,
    fun members hmembers => ?_⟩
  refine ⟨_, get?_display_dataAfter hmembers, keys_prefix_moveInto _ _, fun key => ?_⟩
  rw [get?_moveInto (nodup_keys_directPanels data), get?_directPanels, Keyed.has]
  -- Only a key that is a panel's and has a direct value is overwritten.
  by_cases hkey : key ∈ Panels.keys
  · cases hvalue : Keyed.get? data key with
    | none => simp [hkey]
    | some value => simp [hkey]
  · simp [hkey]

end Afterwards

/-! A panel that is set directly beside an object that does not have it, in data that is
    accepted and in data that is not. -/

namespace SharedDisplay

def data : Keyed Json := [("display", .obj []), ("show_explanation", .bool false)]

def refused : Keyed Json :=
  [("show_explanation", .bool false), ("colour", .null),
    ("display", .obj [("show_explanation", .bool true)])]

/-- The object under `display` has taken up the panel, although the data was refused in the
    second case. -/
theorem display_not_kept :
    ((ofObject data).1.isOk = true ∧ (ofObject data).2 ≠ data) ∧
    (ofObject refused).1.isOk = false ∧ (ofObject refused).2 ≠ refused := by
  have hdisplay : Keyed.get? data "display" = some (.obj []) := by with_unfolding_all rfl
  have hbeside : Keyed.get? refused "display"
      = some (.obj [("show_explanation", .bool true)]) := by with_unfolding_all rfl
  refine ⟨⟨by decide +kernel, fun hkept => ?_⟩, by decide +kernel, fun hkept => ?_⟩
  · have hin := (data_kept_iff data).1.mp hkept _ hdisplay "show_explanation" (by decide)
      (.bool false) (by with_unfolding_all rfl)
    cases hin
  · have hin := (data_kept_iff refused).1.mp hkept _ hbeside "show_explanation" (by decide)
      (.bool false) (by with_unfolding_all rfl)
    cases Option.some.inj hin

end SharedDisplay

section Written

variable {data : Keyed Json} {settings : Settings}

/-- What stands for the display is a choice of panels, or else no object. -/
def IsSettled (settings : Settings) : Prop :=
  ∀ members, settings.display ≠ .unusable (.obj members)

theorem isSettled_of_ofObject? (h : ofObject? data = .ok settings) : IsSettled settings := by
  intro members hdisplay
  have hshows := (acceptable_and_agrees_of_ok h).2.display
  by_cases hpanels : SetsPanel data ∨ HasObject data
  · rw [hshows.panels hpanels] at hdisplay
    cases hdisplay
  · obtain ⟨hsets, hobject⟩ := not_or.mp hpanels
    cases hvalue : Keyed.get? data "display" with
    | none =>
        rw [hshows.absent hsets hvalue] at hdisplay
        cases hdisplay
    | some value =>
        rw [hshows.bare hsets hobject value hvalue] at hdisplay
        exact hobject ⟨members, hvalue.trans (congrArg some (Display.unusable.inj hdisplay))⟩

theorem get?_display_toObject (settings : Settings) :
    Keyed.get? settings.toObject "display" = some settings.display.toJson := rfl

theorem keys_toObject (settings : Settings) : Keyed.keys settings.toObject = topKeys := rfl

/-- No panel is set directly in what is written. -/
theorem not_setsPanel_toObject (settings : Settings) : ¬SetsPanel settings.toObject := by
  rintro ⟨key, hkey, hhas⟩
  have hmem := Keyed.mem_keys_of_get? hhas
  rw [keys_toObject] at hmem
  have hapart : ∀ key ∈ Panels.keys, key ∉ topKeys := by decide
  exact hapart key hkey hmem

theorem acceptable_toObject (h : IsSettled settings) : Acceptable settings.toObject where
  display := by
    intro members hmembers
    rw [get?_display_toObject, Option.some.injEq] at hmembers
    cases hdisplay : settings.display with
    | chosen panels =>
        rw [hdisplay] at hmembers
        rw [← Json.obj.inj hmembers]
        exact fun key hkey => hkey
    | unusable value =>
        rw [hdisplay] at hmembers
        exact absurd (hdisplay.trans (congrArg Display.unusable hmembers)) (h members)
  keys := by
    intro key hkey
    rw [keys_toObject] at hkey
    have hwritten : ∀ key ∈ topKeys, key ∈ writtenKeys := by decide
    exact hwritten key hkey
  format := by
    have hasked : askedFormat settings.toObject = .str settings.format.name := rfl
    rw [FormatFits, hasked]
    cases settings.format with
    | table => exact .inl rfl
    | json => exact .inr rfl

theorem askedPanels_toObject {panels : Panels}
    (h : Keyed.get? settings.toObject "display" = some (.obj panels.toObject)) :
    askedPanels settings.toObject = panels := by
  unfold askedPanels askedPanel
  rw [displayObject_of_get? h]
  rfl

/-- What is written says what the settings say, and nothing else. -/
theorem eq_of_agrees_toObject {found : Settings} (h : IsSettled settings)
    (hagrees : Agrees settings.toObject found) : found = settings := by
  have hformat : found.format = settings.format := by
    have hasked : OutputFormat.ofJson? (askedFormat settings.toObject) = some settings.format :=
      OutputFormat.ofJson?_eq_some_iff.mpr rfl
    exact Option.some.inj (hagrees.ofJson?_askedFormat.symm.trans hasked)
  have hdisplay : found.display = settings.display := by
    cases hshown : settings.display with
    | chosen panels =>
        -- The panels are written as an object that has all of them.
        have hobject : Keyed.get? settings.toObject "display" = some (.obj panels.toObject) := by
          rw [get?_display_toObject, hshown]
          rfl
        rw [hagrees.display.panels (.inr ⟨_, hobject⟩), askedPanels_toObject hobject]
    | unusable value =>
        have hvalue : Keyed.get? settings.toObject "display" = some value := by
          rw [get?_display_toObject, hshown]
          rfl
        refine hagrees.display.bare (not_setsPanel_toObject settings) ?_ value hvalue
        rintro ⟨members, hmembers⟩
        rw [hvalue] at hmembers
        exact h members (hshown.trans (congrArg Display.unusable (Option.some.inj hmembers)))
  have hdebug : found.debug = settings.debug := hagrees.debug
  have hname : found.anonymousName = settings.anonymousName := hagrees.anonymousName
  calc found = ⟨found.debug, found.format, found.anonymousName, found.display⟩ := rfl
    _ = ⟨settings.debug, settings.format, settings.anonymousName, settings.display⟩ := by
      rw [hdebug, hformat, hname, hdisplay]
    _ = settings := rfl

/-- Settled settings are read back as they are, and what was written is left alone. -/
theorem ofObject_toObject (h : IsSettled settings) :
    ofObject settings.toObject = (.ok settings, settings.toObject) := by
  obtain ⟨found, hread, hagrees⟩ := ofObject?_of_acceptable (acceptable_toObject h)
  rw [eq_of_agrees_toObject h hagrees] at hread
  have hkept : dataAfter settings.toObject = settings.toObject := by
    refine dataAfter_eq_self_iff.mpr fun members _ key hkey value hvalue => ?_
    refine absurd ⟨key, hkey, ?_⟩ (not_setsPanel_toObject settings)
    rw [Keyed.has, hvalue, Option.isSome_some]
  exact Prod.ext hread hkept

/-- Data as it is written out once it was read. -/
def normalized (data : Keyed Json) : Except Error (Keyed Json) :=
  (ofObject? data).map toObject

/-- Settings that were read can be written out and read back, and come out the same. So
    writing out what was read and doing so again gives nothing new. -/
theorem written_read_back (data : Keyed Json) :
    (∀ settings, ofObject? data = .ok settings →
      ofObject settings.toObject = (.ok settings, settings.toObject)) ∧
    (normalized data).bind normalized = normalized data := by
  refine ⟨fun settings h => ofObject_toObject (isSettled_of_ofObject? h), ?_⟩
  rw [normalized]
  cases h : ofObject? data with
  | error error => rfl
  | ok settings =>
      have hback : ofObject? settings.toObject = .ok settings :=
        congrArg Prod.fst (ofObject_toObject (isSettled_of_ofObject? h))
      exact congrArg (Except.map toObject) hback

end Written

/-! A display that is a list with an object in it. -/

namespace ListedDisplay

def data : Keyed Json :=
  [("format", .str "json"), ("display", .arr [.obj [("show_explanation", .null)]]),
    ("debug", .int 2)]

def settings : Settings where
  debug := .int 2
  format := .json
  display := .unusable (.arr [.obj [("show_explanation", .null)]])

/-- The list comes back as it is, and so do the settings around it. -/
theorem list_read_back :
    ofObject? data = .ok settings ∧
      ofObject settings.toObject = (.ok settings, settings.toObject) := by
  have hread : ofObject? data = .ok settings := by with_unfolding_all rfl
  exact ⟨hread, (written_read_back data).1 settings hread⟩

end ListedDisplay

end Settings

end Costwise
