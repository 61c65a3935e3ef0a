import Costwise.Settings.Basic

/-!
# Which Setting Wins and Which Mistake Is Reported

A panel can be set in two places and the output format under two names, and an
object can be wrong in three ways at once. Reading settles all of this by moving
what was set directly to where it belongs and looking only there. So the order in
which it looks is nowhere written down: it follows from what overwrites what.

Here it is written down. A direct setting wins over the object under `display`,
and that wins over what is usual (`askedPanels`). A stray key under `display` is
reported before one at the top, and both before an unknown format (`Blames`). The
settings are told from the data as it was given, without moving anything (`Agrees`).

What makes the two accounts agree is that moving adds allowed keys only, and adds
them last. It never hides the first stray key, and it never brings a new one.

## Main definitions

* `Settings.FirstStray`: The first of some keys that is not allowed.
* `Settings.askedPanels`: The panels that data asks for.
* `Settings.Acceptable`: Nothing is wrong with the data.
* `Settings.Agrees`: Settings say what the data says.
* `Settings.Blames`: A refusal reports what is to be reported.

## Theorems

* `keyError?_eq_some_iff`: What is reported about keys is the first stray one.
* `get?_moveInto`: What was moved wins over what was there.
* `keyError?_moveDirect`: Moving direct settings neither hides nor adds a stray key.
* `acceptable_or_blames`: The four ways in which reading can end.
* `outcome_by_precedence`: What becomes of any data.
-/

namespace Costwise

namespace Keyed

variable {α : Type}

/-- Gives a key a value if there is one to give. -/
def putGiven (key : String) (given : Option α) (entries : Keyed α) : Keyed α :=
  match given with
  | some value => put key value entries
  | none => entries

theorem putGiven_some (entries : Keyed α) (key : String) (value : α) :
    putGiven key (some value) entries = put key value entries := rfl

theorem get?_putGiven_self (entries : Keyed α) (key : String) (given : Option α) :
    get? (putGiven key given entries) key = given.or (get? entries key) := by
  cases given with
  | none => rw [putGiven, Option.none_or]
  | some value => rw [putGiven_some, get?_put_self, Option.some_or]

theorem get?_putGiven_of_ne (entries : Keyed α) {key other : String} (given : Option α)
    (hne : other ≠ key) : get? (putGiven key given entries) other = get? entries other := by
  cases given with
  | none => rfl
  | some value => exact get?_put_of_ne entries value hne

/-! The entries of certain keys, in the order of these keys. -/

theorem keys_pick (entries : Keyed α) (wanted : List String) :
    keys (wanted.filterMap fun key => (get? entries key).map fun value => (key, value))
      = wanted.filter (has entries) := by
  induction wanted with
  | nil => rfl
  | cons first rest ih =>
      rw [List.filterMap_cons, List.filter_cons, has]
      cases get? entries first with
      | none => exact ih
      | some value => exact congrArg (first :: ·) ih

theorem get?_pick (entries : Keyed α) (wanted : List String) (key : String) :
    get? (wanted.filterMap fun key => (get? entries key).map fun value => (key, value)) key
      = if key ∈ wanted then get? entries key else none := by
  induction wanted with
  | nil => rfl
  | cons first rest ih =>
      rw [List.filterMap_cons]
      by_cases hfirst : key = first
      · rw [if_pos (hfirst ▸ List.mem_cons_self), hfirst]
        cases hget : get? entries first with
        | none =>
            -- A key without a value is not picked later either.
            rw [hfirst, hget, ite_self] at ih
            exact ih
        | some value => exact (get?_cons _ _ _ _).trans (if_pos rfl)
      · have hmem : key ∈ first :: rest ↔ key ∈ rest := by
          rw [List.mem_cons, or_iff_right hfirst]
        rw [ite_congr (propext hmem) (fun _ => rfl) fun _ => rfl, ← ih]
        cases get? entries first with
        | none => rfl
        | some value => exact (get?_cons _ _ _ _).trans (if_neg hfirst)

end Keyed

namespace OutputFormat

theorem ofJson?_eq_some_iff {value : Json} {format : OutputFormat} :
    ofJson? value = some format ↔ value = .str format.name := by
  constructor
  · intro h
    cases value with
    | str text =>
        have hname := List.find?_some h
        rw [eq_of_beq hname]
    | _ => cases h
  · rintro rfl
    cases format with
    | table => rfl
    | json => rfl

end OutputFormat

namespace Settings

/-- The keys that may stand at the top. -/
def writtenKeys : List String :=
  ["format", "show_explanation", "show_suggestions", "show_bottlenecks", "show_call_frequency",
    "debug", "output_format", "anonymous_name", "display"]

/-- The first of some keys that is not among the allowed ones. -/
def FirstStray (allowed keys : List String) (key : String) : Prop :=
  key ∉ allowed ∧
    ∃ before after, keys = before ++ key :: after ∧ ∀ other ∈ before, other ∈ allowed

/-- What is said about a stray key. -/
def KeyError.ofKey (key : String) : KeyError :=
  if key = "self" then .reserved else .unknown key

/-- Some panel is set directly at the top. -/
def SetsPanel (data : Keyed Json) : Prop :=
  ∃ key ∈ Panels.keys, Keyed.has data key

/-- There is an object under `display`. -/
def HasObject (data : Keyed Json) : Prop :=
  ∃ members, Keyed.get? data "display" = some (.obj members)

/-- The value that data asks for under a key of a panel: set directly, else under
    `display`, else the usual one. -/
def askedPanel (data : Keyed Json) (key : String) (usual : Json) : Json :=
  ((Keyed.get? data key).or (Keyed.get? (displayObject data) key)).getD usual

/-- The panels that data asks for. -/
def askedPanels (data : Keyed Json) : Panels where
  explanation := askedPanel data "show_explanation" (.bool true)
  suggestions := askedPanel data "show_suggestions" (.bool false)
  bottlenecks := askedPanel data "show_bottlenecks" (.bool false)
  callFrequency := askedPanel data "show_call_frequency" (.bool true)

/-- The output format that data asks for, which has two names. -/
def askedFormat (data : Keyed Json) : Json :=
  ((Keyed.get? data "format").or (Keyed.get? data "output_format")).getD (.str "table")

/-- All keys of an object under `display` are those of panels. -/
def DisplayFits (data : Keyed Json) : Prop :=
  ∀ members, Keyed.get? data "display" = some (.obj members) →
    ∀ key ∈ Keyed.keys members, key ∈ Panels.keys

/-- All keys at the top are keys that may stand there. -/
def KeysFit (data : Keyed Json) : Prop :=
  ∀ key ∈ Keyed.keys data, key ∈ writtenKeys

instance (data : Keyed Json) : Decidable (KeysFit data) :=
  inferInstanceAs (Decidable (∀ key ∈ Keyed.keys data, key ∈ writtenKeys))

/-- The output format is one that exists. -/
def FormatFits (data : Keyed Json) : Prop :=
  askedFormat data = .str "table" ∨ askedFormat data = .str "json"

/-- Nothing is wrong with the data. -/
structure Acceptable (data : Keyed Json) : Prop where
  display : DisplayFits data
  keys : KeysFit data
  format : FormatFits data

/-- A display is the one that the data asks for. Without panels, whatever stands under
    `display` is taken as it is. -/
structure Shows (data : Keyed Json) (display : Display) : Prop where
  panels : SetsPanel data ∨ HasObject data → display = .chosen (askedPanels data)
  bare : ¬SetsPanel data → ¬HasObject data → ∀ value, Keyed.get? data "display" = some value →
    display = .unusable value
  absent : ¬SetsPanel data → Keyed.get? data "display" = none → display = .chosen {}

/-- Settings say what the data says. -/
structure Agrees (data : Keyed Json) (settings : Settings) : Prop where
  debug : settings.debug = (Keyed.get? data "debug").getD (.bool false)
  format : .str settings.format.name = askedFormat data
  anonymousName :
    settings.anonymousName = (Keyed.get? data "anonymous_name").getD (.str "anonymous")
  display : Shows data settings.display

theorem Agrees.ofJson?_askedFormat {data : Keyed Json} {settings : Settings}
    (h : Agrees data settings) : OutputFormat.ofJson? (askedFormat data) = some settings.format :=
  OutputFormat.ofJson?_eq_some_iff.mpr h.format.symm

/-- A refusal reports what is to be reported: the first stray key under `display`, or
    else the first one at the top, or else the format. -/
def Blames (data : Keyed Json) : Error → Prop
  | .displayKey error => ∃ members key, Keyed.get? data "display" = some (.obj members) ∧
      FirstStray Panels.keys (Keyed.keys members) key ∧ error = .ofKey key
  | .topKey error => DisplayFits data ∧
      ∃ key, FirstStray writtenKeys (Keyed.keys data) key ∧ error = .ofKey key
  | .format value => DisplayFits data ∧ KeysFit data ∧ ¬FormatFits data ∧ value = askedFormat data

section StrayKeys

variable {allowed : List String} {members : Keyed Json}

theorem keyError?_eq_none_iff :
    keyError? allowed members = none ↔ ∀ key ∈ Keyed.keys members, key ∈ allowed := by
  rw [keyError?, Option.map_eq_none_iff, List.find?_eq_none]
  simp only [Bool.not_eq_true', Bool.not_eq_false, List.contains_iff_mem]

theorem keyError?_eq_some_iff {error : KeyError} :
    keyError? allowed members = some error ↔
      ∃ key, FirstStray allowed (Keyed.keys members) key ∧ error = .ofKey key := by
  have hfind : ∀ key, (Keyed.keys members).find? (fun key => !allowed.contains key) = some key ↔
      FirstStray allowed (Keyed.keys members) key := by
    intro key
    rw [List.find?_eq_some_iff_append, FirstStray]
    simp only [Bool.not_eq_true', Bool.not_not, List.contains_eq_mem, decide_eq_false_iff_not,
      decide_eq_true_eq]
  rw [keyError?, Option.map_eq_some_iff]
  constructor
  · rintro ⟨key, hkey, rfl⟩
    exact ⟨key, (hfind key).mp hkey, rfl⟩
  · rintro ⟨key, hkey, rfl⟩
    exact ⟨key, (hfind key).mpr hkey, rfl⟩

/-- An allowed key that is given a value is no stray key, and stands behind the first
    one if it is new. -/
theorem keyError?_put {key : String} (hkey : key ∈ allowed) (value : Json) :
    keyError? allowed (Keyed.put key value members) = keyError? allowed members := by
  rw [keyError?, keyError?, Keyed.keys_put]
  by_cases hmem : key ∈ Keyed.keys members
  · rw [if_pos hmem]
  · rw [if_neg hmem, List.find?_append]
    have hlast : [key].find? (fun key => !allowed.contains key) = none := by
      simp only [List.find?_singleton, List.contains_eq_mem, hkey, decide_true, Bool.not_true,
        Bool.false_eq_true, if_false]
    rw [hlast, Option.or_none]

theorem keyError?_putGiven {key : String} (hkey : key ∈ allowed) (given : Option Json) :
    keyError? allowed (Keyed.putGiven key given members) = keyError? allowed members := by
  cases given with
  | none => rfl
  | some value => exact keyError?_put hkey value

end StrayKeys

section Moving

variable {moved members data : Keyed Json}

theorem moveInto_cons (key : String) (value : Json) (moved members : Keyed Json) :
    moveInto ((key, value) :: moved) members = moveInto moved (Keyed.put key value members) := rfl

/-- What was moved wins over what was there. -/
theorem get?_moveInto (hnodup : (Keyed.keys moved).Nodup) (key : String) :
    Keyed.get? (moveInto moved members) key
      = (Keyed.get? moved key).or (Keyed.get? members key) := by
  induction moved generalizing members with
  | nil => rw [Keyed.get?_nil, Option.none_or, moveInto, List.foldl_nil]
  | cons entry rest ih =>
      rcases entry with ⟨first, value⟩
      rw [Keyed.keys_cons, List.nodup_cons] at hnodup
      rw [moveInto_cons, ih hnodup.2, Keyed.get?_cons]
      by_cases h : key = first
      · -- No later entry overwrites what the first one has put.
        rw [if_pos h, h, Keyed.get?_put_self, Keyed.get?_eq_none_of_not_mem_keys hnodup.1,
          Option.none_or, Option.some_or]
      · rw [if_neg h, Keyed.get?_put_of_ne _ _ h]

theorem keyError?_moveInto {allowed : List String} (h : ∀ key ∈ Keyed.keys moved, key ∈ allowed) :
    keyError? allowed (moveInto moved members) = keyError? allowed members := by
  -- Each entry that is moved is put under an allowed key.
  induction moved generalizing members with
  | nil => rfl
  | cons entry rest ih =>
      rcases entry with ⟨first, value⟩
      rw [Keyed.keys_cons, List.forall_mem_cons] at h
      rw [moveInto_cons, ih h.2, keyError?_put h.1]

theorem nodup_panelKeys : Panels.keys.Nodup := by decide

theorem keys_directPanels (data : Keyed Json) :
    Keyed.keys (directPanels data) = Panels.keys.filter (Keyed.has data) := by
  rw [directPanels]
  exact Keyed.keys_pick data Panels.keys

theorem nodup_keys_directPanels (data : Keyed Json) :
    (Keyed.keys (directPanels data)).Nodup := by
  rw [keys_directPanels]
  exact nodup_panelKeys.filter _

theorem mem_panelKeys_of_directPanels {key : String}
    (h : key ∈ Keyed.keys (directPanels data)) : key ∈ Panels.keys := by
  rw [keys_directPanels] at h
  exact (List.mem_filter.mp h).1

theorem get?_directPanels (data : Keyed Json) (key : String) :
    Keyed.get? (directPanels data) key
      = if key ∈ Panels.keys then Keyed.get? data key else none :=
  Keyed.get?_pick data Panels.keys key

theorem directPanels_eq_nil_iff : directPanels data = [] ↔ ¬SetsPanel data := by
  have hkeys : directPanels data = [] ↔ Keyed.keys (directPanels data) = [] :=
    List.map_eq_nil_iff.symm
  rw [hkeys, keys_directPanels, List.filter_eq_nil_iff, SetsPanel]
  simp only [not_exists, not_and]

/-- The data without what is set directly. -/
def unmoved (data : Keyed Json) : Keyed Json :=
  data.filter fun entry => !("format" :: Panels.keys).contains entry.1

/-- The object that direct settings are moved into, if there are any. -/
def movedDisplay? (data : Keyed Json) : Option Json :=
  if (directPanels data).isEmpty then none
  else some (.obj (moveInto (directPanels data) (displayObject data)))

theorem moveDirect_eq (data : Keyed Json) :
    moveDirect data = Keyed.putGiven "output_format" (Keyed.get? data "format")
      (Keyed.putGiven "display" (movedDisplay? data) (unmoved data)) := by
  have hpanels : (if (directPanels data).isEmpty then unmoved data
      else Keyed.put "display" (.obj (moveInto (directPanels data) (displayObject data)))
        (unmoved data)) = Keyed.putGiven "display" (movedDisplay? data) (unmoved data) := by
    rw [movedDisplay?]
    split
    · rfl
    · rfl
  rw [← hpanels]
  unfold moveDirect
  cases Keyed.get? data "format" with
  | none => rfl
  | some value => rfl

/-- Moving direct settings neither hides a stray key nor adds one: the keys that go are
    allowed, and so are the two that may come. -/
theorem keyError?_moveDirect (data : Keyed Json) :
    keyError? topKeys (moveDirect data) = keyError? writtenKeys data := by
  have hformat : "output_format" ∈ topKeys := by decide
  have hdisplay : "display" ∈ topKeys := by decide
  rw [moveDirect_eq, keyError?_putGiven hformat, keyError?_putGiven hdisplay, keyError?,
    keyError?, unmoved, Keyed.keys_filter (fun key => !("format" :: Panels.keys).contains key),
    List.find?_filter]
  -- A key that stays and is not allowed at the top is a key that may not be written.
  have hwritten : writtenKeys = ("format" :: Panels.keys) ++ topKeys := rfl
  have hstray : (fun key => decide ((!("format" :: Panels.keys).contains key) = true
      ∧ (!topKeys.contains key) = true)) = fun key => !writtenKeys.contains key := by
    funext key
    rw [Bool.decide_and, Bool.decide_eq_true, Bool.decide_eq_true, hwritten,
      List.contains_append, Bool.not_or]
  rw [hstray]

theorem get?_unmoved {key : String} (h : key ∉ "format" :: Panels.keys) :
    Keyed.get? (unmoved data) key = Keyed.get? data key := by
  have hstays : (!("format" :: Panels.keys).contains key) = true := by
    rw [List.contains_eq_mem, decide_eq_false h, Bool.not_false]
  exact Keyed.get?_filter (fun key => !("format" :: Panels.keys).contains key) data hstays

theorem get?_moveDirect {key : String} (hdirect : key ∉ "format" :: Panels.keys)
    (hformat : key ≠ "output_format") (hdisplay : key ≠ "display") :
    Keyed.get? (moveDirect data) key = Keyed.get? data key := by
  rw [moveDirect_eq, Keyed.get?_putGiven_of_ne _ _ hformat, Keyed.get?_putGiven_of_ne _ _ hdisplay,
    get?_unmoved hdirect]

theorem get?_format_moveDirect (data : Keyed Json) :
    Keyed.get? (moveDirect data) "output_format"
      = (Keyed.get? data "format").or (Keyed.get? data "output_format") := by
  rw [moveDirect_eq, Keyed.get?_putGiven_self, Keyed.get?_putGiven_of_ne _ _ (by decide),
    get?_unmoved (by decide)]

theorem get?_display_moveDirect (data : Keyed Json) :
    Keyed.get? (moveDirect data) "display"
      = (movedDisplay? data).or (Keyed.get? data "display") := by
  rw [moveDirect_eq, Keyed.get?_putGiven_of_ne _ _ (by decide), Keyed.get?_putGiven_self,
    get?_unmoved (by decide)]

/-- If anything asks for panels, the display is an object once settings have been moved. -/
theorem get?_display_moveDirect_of_panels (h : SetsPanel data ∨ HasObject data) :
    Keyed.get? (moveDirect data) "display"
      = some (.obj (moveInto (directPanels data) (displayObject data))) := by
  rw [get?_display_moveDirect, movedDisplay?]
  by_cases hdirect : directPanels data = []
  · -- Nothing is moved, so it is the object that was there.
    rcases h with hsets | ⟨members, hmembers⟩
    · exact absurd hsets (directPanels_eq_nil_iff.mp hdirect)
    · rw [hdirect, displayObject, hmembers]
      rfl
  · rw [List.isEmpty_eq_false_iff.mpr hdirect]
    rfl

theorem get?_display_moveDirect_of_not_setsPanel (h : ¬SetsPanel data) :
    Keyed.get? (moveDirect data) "display" = Keyed.get? data "display" := by
  rw [get?_display_moveDirect, movedDisplay?, directPanels_eq_nil_iff.mpr h]
  rfl

end Moving

section Reading

variable {data : Keyed Json}

theorem displayObject_of_get? {members : Keyed Json}
    (h : Keyed.get? data "display" = some (.obj members)) : displayObject data = members := by
  rw [displayObject, h]

theorem displayObject_of_not_hasObject (h : ¬HasObject data) : displayObject data = [] := by
  rw [displayObject]
  split
  · next members hmembers => exact absurd ⟨members, hmembers⟩ h
  · rfl

theorem displayOf_of_not_hasObject (h : ¬HasObject data) :
    displayOf data = .ok (((Keyed.get? data "display").map .unusable).getD (.chosen {})) := by
  rw [displayOf]
  cases hvalue : Keyed.get? data "display" with
  | none => rfl
  | some value =>
      cases value with
      | obj members => exact absurd ⟨members, hvalue⟩ h
      | _ => rfl

theorem ofObject_moveInto (data : Keyed Json) :
    Panels.ofObject (moveInto (directPanels data) (displayObject data)) = askedPanels data := by
  have hpanel : ∀ key ∈ Panels.keys, ∀ usual,
      (Keyed.get? (moveInto (directPanels data) (displayObject data)) key).getD usual
        = askedPanel data key usual := by
    intro key hkey usual
    rw [get?_moveInto (nodup_keys_directPanels data), get?_directPanels, if_pos hkey, askedPanel]
  rw [Panels.ofObject, askedPanels, hpanel _ (by decide), hpanel _ (by decide),
    hpanel _ (by decide), hpanel _ (by decide)]

/-- If anything asks for panels, only the keys that stood under `display` can be wrong: the
    ones that were moved are those of panels. -/
theorem displayOf_moveDirect_of_panels (h : SetsPanel data ∨ HasObject data) :
    displayOf (moveDirect data) = (keyError? Panels.keys (displayObject data)).elim
      (.ok (.chosen (askedPanels data))) fun error => .error (.displayKey error) := by
  rw [displayOf, get?_display_moveDirect_of_panels h]
  dsimp only
  rw [keyError?_moveInto fun _ => mem_panelKeys_of_directPanels, ofObject_moveInto]
  cases keyError? Panels.keys (displayObject data) with
  | none => rfl
  | some error => rfl

/-- What becomes of the display if its keys are in order. -/
theorem displayOf_moveDirect (h : keyError? Panels.keys (displayObject data) = none) :
    ∃ display, displayOf (moveDirect data) = .ok display ∧ Shows data display := by
  by_cases hpanels : SetsPanel data ∨ HasObject data
  · refine ⟨.chosen (askedPanels data), ?_, ⟨fun _ => rfl, ?_, ?_⟩⟩
    · rw [displayOf_moveDirect_of_panels hpanels, h, Option.elim_none]
    · intro hsets hobject
      exact absurd hpanels (not_or.mpr ⟨hsets, hobject⟩)
    · intro hsets habsent
      rcases hpanels with hset | ⟨members, hmembers⟩
      · exact absurd hset hsets
      · rw [habsent] at hmembers
        cases hmembers
  · -- Nothing is moved into the display, and it is no object.
    obtain ⟨hsets, hobject⟩ := not_or.mp hpanels
    have hget := get?_display_moveDirect_of_not_setsPanel hsets
    refine ⟨((Keyed.get? data "display").map .unusable).getD (.chosen {}), ?_, ⟨?_, ?_, ?_⟩⟩
    · have hbare : ¬HasObject (moveDirect data) := by
        rwa [HasObject, hget]
      rw [displayOf_of_not_hasObject hbare, hget]
    · exact fun hasked => absurd hasked hpanels
    · intro _ _ value hvalue
      rw [hvalue, Option.map_some, Option.getD_some]
    · intro _ habsent
      rw [habsent, Option.map_none, Option.getD_none]

/-- A stray key under `display` is found in the object that is looked at, which is empty
    if there is none. -/
theorem keyError?_displayObject_eq_none_iff :
    keyError? Panels.keys (displayObject data) = none ↔ DisplayFits data := by
  rw [keyError?_eq_none_iff]
  by_cases hobject : HasObject data
  · obtain ⟨members, hmembers⟩ := hobject
    rw [displayObject_of_get? hmembers]
    constructor
    · intro hkeys other hother
      rw [hmembers] at hother
      rw [← Json.obj.inj (Option.some.inj hother)]
      exact hkeys
    · exact fun hfits => hfits members hmembers
  · rw [displayObject_of_not_hasObject hobject]
    constructor
    · exact fun _ members hmembers => absurd ⟨members, hmembers⟩ hobject
    · exact fun _ _ hkey => absurd hkey List.not_mem_nil

theorem formatFits_iff :
    FormatFits data ↔ ∃ format, OutputFormat.ofJson? (askedFormat data) = some format := by
  simp only [OutputFormat.ofJson?_eq_some_iff]
  constructor
  · rintro (htable | hjson)
    · exact ⟨.table, htable⟩
    · exact ⟨.json, hjson⟩
  · rintro ⟨format, hformat⟩
    cases format with
    | table => exact .inl hformat
    | json => exact .inr hformat

/-- Once the display is settled, only the keys at the top and the format are left. -/
theorem ofObject?_of_displayFits (h : DisplayFits data) :
    ∃ display, Shows data display ∧ ofObject? data = (keyError? writtenKeys data).elim
      ((OutputFormat.ofJson? (askedFormat data)).elim (.error (.format (askedFormat data)))
        fun format => .ok
          { debug := (Keyed.get? data "debug").getD (.bool false)
            format
            anonymousName := (Keyed.get? data "anonymous_name").getD (.str "anonymous")
            display })
      fun error => .error (.topKey error) := by
  obtain ⟨display, hdisplay, hshows⟩ :=
    displayOf_moveDirect (keyError?_displayObject_eq_none_iff.mpr h)
  have hformat : (Keyed.get? (moveDirect data) "output_format").getD
      (.str OutputFormat.table.name) = askedFormat data := by
    rw [get?_format_moveDirect]
    rfl
  refine ⟨display, hshows, ?_⟩
  have hread : ofObject? data = ofMoved (moveDirect data) := rfl
  rw [hread, ofMoved, hdisplay, keyError?_moveDirect, hformat,
    get?_moveDirect (by decide) (by decide) (by decide),
    get?_moveDirect (by decide) (by decide) (by decide)]
  cases keyError? writtenKeys data with
  | some error => rfl
  | none =>
      cases hnamed : OutputFormat.ofJson? (askedFormat data) with
      | none => simp only [hnamed]; rfl
      | some format => simp only [hnamed]; rfl

theorem ofObject?_of_blames {error : Error} (h : Blames data error) :
    ofObject? data = .error error := by
  cases error with
  | displayKey error =>
      obtain ⟨members, key, hmembers, hstray, herror⟩ := h
      have hread : ofObject? data = ofMoved (moveDirect data) := rfl
      rw [hread, ofMoved, displayOf_moveDirect_of_panels (.inr ⟨members, hmembers⟩),
        displayObject_of_get? hmembers, keyError?_eq_some_iff.mpr ⟨key, hstray, herror⟩,
        Option.elim_some]
      rfl
  | topKey error =>
      obtain ⟨hdisplay, hstray⟩ := h
      obtain ⟨_, _, hread⟩ := ofObject?_of_displayFits hdisplay
      rw [hread, keyError?_eq_some_iff.mpr hstray, Option.elim_some]
  | format value =>
      obtain ⟨hdisplay, hkeys, hformat, rfl⟩ := h
      obtain ⟨_, _, hread⟩ := ofObject?_of_displayFits hdisplay
      have hunknown : OutputFormat.ofJson? (askedFormat data) = none := by
        rw [formatFits_iff, not_exists] at hformat
        exact Option.eq_none_iff_forall_ne_some.mpr hformat
      rw [hread, keyError?_eq_none_iff.mpr hkeys, hunknown, Option.elim_none, Option.elim_none]

theorem ofObject?_of_acceptable (h : Acceptable data) :
    ∃ settings, ofObject? data = .ok settings ∧ Agrees data settings := by
  obtain ⟨display, hshows, hread⟩ := ofObject?_of_displayFits h.display
  obtain ⟨format, hformat⟩ := formatFits_iff.mp h.format
  rw [keyError?_eq_none_iff.mpr h.keys, hformat, Option.elim_none, Option.elim_some] at hread
  exact ⟨_, hread, rfl, (OutputFormat.ofJson?_eq_some_iff.mp hformat).symm, rfl, hshows⟩

/-- Data in which nothing is to be reported is in order. -/
theorem acceptable_or_blames (data : Keyed Json) :
    Acceptable data ∨ ∃ error, Blames data error := by
  -- Look in the order of the report: under `display`, at the top, at the format.
  cases hdisplay : keyError? Panels.keys (displayObject data) with
  | some error =>
      have hobject : HasObject data := by
        refine Classical.byContradiction fun hnone => ?_
        rw [displayObject_of_not_hasObject hnone] at hdisplay
        cases hdisplay
      obtain ⟨members, hmembers⟩ := hobject
      rw [displayObject_of_get? hmembers] at hdisplay
      obtain ⟨key, hstray, herror⟩ := keyError?_eq_some_iff.mp hdisplay
      exact .inr ⟨.displayKey error, members, key, hmembers, hstray, herror⟩
  | none =>
      have hfits := keyError?_displayObject_eq_none_iff.mp hdisplay
      cases hkeys : keyError? writtenKeys data with
      | some error => exact .inr ⟨.topKey error, hfits, keyError?_eq_some_iff.mp hkeys⟩
      | none =>
          by_cases hformat : FormatFits data
          · exact .inl ⟨hfits, keyError?_eq_none_iff.mp hkeys, hformat⟩
          · exact .inr ⟨.format (askedFormat data), hfits, keyError?_eq_none_iff.mp hkeys,
              hformat, rfl⟩

theorem acceptable_and_agrees_of_ok {settings : Settings} (h : ofObject? data = .ok settings) :
    Acceptable data ∧ Agrees data settings := by
  rcases acceptable_or_blames data with hgood | ⟨error, hbad⟩
  · obtain ⟨found, hfound, hagrees⟩ := ofObject?_of_acceptable hgood
    rw [h] at hfound
    rw [Except.ok.inj hfound]
    exact ⟨hgood, hagrees⟩
  · rw [ofObject?_of_blames hbad] at h
    cases h

theorem blames_of_error {error : Error} (h : ofObject? data = .error error) :
    Blames data error := by
  rcases acceptable_or_blames data with hgood | ⟨found, hbad⟩
  · obtain ⟨settings, hsettings, _⟩ := ofObject?_of_acceptable hgood
    rw [hsettings] at h
    cases h
  · rw [ofObject?_of_blames hbad] at h
    rwa [← Except.error.inj h]

/-- What becomes of any data. It is read if and only if nothing is wrong with it. Then
    the settings say what it says, a direct setting winning over one under `display`;
    else the refusal reports the first stray key under `display`, before one at the
    top, before the format. -/
theorem outcome_by_precedence (data : Keyed Json) :
    ((∃ settings, ofObject? data = .ok settings) ↔ Acceptable data) ∧
    (∀ settings, ofObject? data = .ok settings → Agrees data settings) ∧
    (∀ error, ofObject? data = .error error ↔ Blames data error) := by
  refine ⟨⟨fun ⟨settings, h⟩ => (acceptable_and_agrees_of_ok h).1, fun hgood => ?_⟩,
    fun settings h => (acceptable_and_agrees_of_ok h).2,
    fun error => ⟨blames_of_error, ofObject?_of_blames⟩⟩
  obtain ⟨settings, h, _⟩ := ofObject?_of_acceptable hgood
  exact ⟨settings, h⟩

end Reading

/-! A panel that is set in two places and a format under two names, and data that is wrong
    in all three ways. -/

namespace BothSpellings

def data : Keyed Json :=
  [("display", .obj [("show_bottlenecks", .bool true), ("show_explanation", .int 1)]),
    ("output_format", .str "xml"), ("show_explanation", .null), ("format", .str "json")]

def wrong : Keyed Json :=
  [("colour", .null), ("format", .int 3),
    ("display", .obj [("show_bottlenecks", .null), ("self", .null), ("show_all", .null)])]

theorem get?_display :
    Keyed.get? data "display"
      = some (.obj [("show_bottlenecks", .bool true), ("show_explanation", .int 1)]) := by
  with_unfolding_all rfl

theorem acceptable_data : Acceptable data where
  display := by
    intro members hmembers
    rw [get?_display] at hmembers
    rw [← Json.obj.inj (Option.some.inj hmembers)]
    decide
  keys := by decide
  format := .inr (by with_unfolding_all rfl)

/-- The direct panel and the first name of the format win, the panel that is set under
    `display` only is kept, and of four mistakes the first under `display` is reported. -/
theorem direct_wins_display_blamed :
    (∃ settings, ofObject? data = .ok settings ∧ settings.format = .json ∧
      settings.display = .chosen { explanation := .null, bottlenecks := .bool true }) ∧
    ofObject? wrong = .error (.displayKey .reserved) := by
  obtain ⟨settings, hread⟩ := (outcome_by_precedence data).1.mpr acceptable_data
  have hagrees := (outcome_by_precedence data).2.1 settings hread
  refine ⟨⟨settings, hread, ?_, ?_⟩, ((outcome_by_precedence wrong).2.2 _).mpr ?_⟩
  · have hasked : OutputFormat.ofJson? (askedFormat data) = some .json := by
      with_unfolding_all rfl
    exact Option.some.inj (hagrees.ofJson?_askedFormat.symm.trans hasked)
  · exact hagrees.display.panels (.inr ⟨_, get?_display⟩)
  · have hdisplay : Keyed.get? wrong "display"
        = some (.obj [("show_bottlenecks", .null), ("self", .null), ("show_all", .null)]) := by
      with_unfolding_all rfl
    have hstray : FirstStray Panels.keys ["show_bottlenecks", "self", "show_all"] "self" :=
      ⟨by decide, ["show_bottlenecks"], ["show_all"], rfl, by decide⟩
    exact ⟨_, "self", hdisplay, hstray, rfl⟩

end BothSpellings

end Settings

end Costwise
