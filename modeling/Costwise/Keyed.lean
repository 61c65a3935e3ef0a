/-!
# Ordered Keys

Values under text keys, in the order in which the keys first came. JSON objects
and call counts are of this kind: the order shows in what is printed, and a key
that comes again keeps its place.

## Main definitions

* `Keyed`: Keys with their values, in order.
* `Keyed.get?`: The value of a key.
* `Keyed.put`: Gives a key a value.
* `Keyed.ofPairs`: From pairs in which a key may come again.

## Theorems

* `get?_put_self`: A key that was given a value has it.
* `get?_put_of_ne`: The other keys keep theirs.
* `keys_put`: A new key comes last, a known one keeps its place.
* `put_put`: Of two values for one key the second stays.
* `put_eq_self_iff`: Giving a key the value that it has changes nothing.
* `mem_iff_get?`: Where no key comes twice, entries are values of keys.
* `get?_filter`, `filter_put`: What becomes of a key that a selection keeps.
-/

namespace Costwise

/-- Keys with their values, in the order in which the keys first came. -/
abbrev Keyed (α : Type) := List (String × α)

namespace Keyed

variable {α : Type}

/-- The keys, in order. -/
def keys (entries : Keyed α) : List String :=
  entries.map (·.1)

/-- The value of a key. -/
def get? (entries : Keyed α) (key : String) : Option α :=
  entries.lookup key

/-- Whether a key is there. -/
def has (entries : Keyed α) (key : String) : Bool :=
  (entries.get? key).isSome

/-- Gives a key a value: in its place if it is there, at the end if not. -/
def put (key : String) (value : α) : Keyed α → Keyed α
  | [] => [(key, value)]
  | (known, old) :: rest =>
    if known = key then (known, value) :: rest else (known, old) :: put key value rest

/-- From pairs in which a key may come again: it keeps its first place and takes
    its last value. -/
def ofPairs (pairs : List (String × α)) : Keyed α :=
  pairs.foldl (fun entries (key, value) => put key value entries) []

theorem get?_nil (key : String) : get? ([] : Keyed α) key = none := rfl

theorem get?_cons (known key : String) (value : α) (rest : Keyed α) :
    get? ((known, value) :: rest) key = if key = known then some value else get? rest key := by
  by_cases h : key = known
  · subst h
    simp only [get?, List.lookup_cons_self, if_pos]
  · simp only [get?, List.lookup_cons, beq_eq_false_iff_ne.mpr h, h, if_false]

theorem get?_put_self (entries : Keyed α) (key : String) (value : α) :
    get? (put key value entries) key = some value := by
  induction entries with
  | nil => simp only [put, get?_cons, if_true]
  | cons head rest ih =>
    obtain ⟨known, old⟩ := head
    by_cases h : known = key
    · simp only [put, h, if_true, get?_cons]
    · simp only [put, h, if_false, get?_cons, Ne.symm h, ih]

theorem get?_put_of_ne (entries : Keyed α) {key other : String} (value : α) (hne : other ≠ key) :
    get? (put key value entries) other = get? entries other := by
  induction entries with
  | nil => simp only [put, get?_cons, hne, if_false, get?_nil]
  | cons head rest ih =>
    obtain ⟨known, old⟩ := head
    by_cases h : known = key
    · subst h
      simp only [put, if_true, get?_cons, hne, if_false]
    · simp only [put, h, if_false, get?_cons, ih]

theorem keys_cons (known : String) (value : α) (rest : Keyed α) :
    keys ((known, value) :: rest) = known :: keys rest := rfl

theorem keys_put (entries : Keyed α) (key : String) (value : α) :
    keys (put key value entries) =
      if key ∈ keys entries then keys entries else keys entries ++ [key] := by
  induction entries with
  | nil => rfl
  | cons head rest ih =>
    obtain ⟨known, old⟩ := head
    by_cases h : known = key
    · subst h
      rw [put, if_pos rfl, keys_cons, keys_cons, if_pos List.mem_cons_self]
    · rw [put, if_neg h, keys_cons, keys_cons, ih]
      by_cases hmem : key ∈ keys rest
      · rw [if_pos hmem, if_pos (List.mem_cons_of_mem _ hmem)]
      · rw [if_neg hmem, if_neg (List.not_mem_cons_of_ne_of_not_mem (Ne.symm h) hmem),
          List.cons_append]

theorem mem_keys_of_get? {entries : Keyed α} {key : String} (h : (entries.get? key).isSome) :
    key ∈ keys entries := by
  induction entries with
  | nil => exact absurd h (by simp only [get?_nil, Option.isSome_none, Bool.false_eq_true,
      not_false_eq_true])
  | cons entry rest ih =>
      rcases entry with ⟨known, value⟩
      rw [keys_cons]
      rw [get?_cons] at h
      by_cases hkey : key = known
      · rw [hkey]
        exact List.mem_cons_self
      · rw [if_neg hkey] at h
        exact List.mem_cons_of_mem _ (ih h)

theorem get?_eq_none_of_not_mem_keys {entries : Keyed α} {key : String} (h : key ∉ keys entries) :
    get? entries key = none :=
  Option.not_isSome_iff_eq_none.mp (mt mem_keys_of_get? h)

theorem put_put (entries : Keyed α) (key : String) (old new : α) :
    put key new (put key old entries) = put key new entries := by
  induction entries with
  | nil => simp only [put, if_true]
  | cons head rest ih =>
    obtain ⟨known, value⟩ := head
    by_cases h : known = key
    · rw [put, put, if_pos h, put, if_pos h, if_pos h]
    · rw [put, put, if_neg h, put, if_neg h, if_neg h, ih]

theorem put_eq_self_iff (entries : Keyed α) (key : String) (value : α) :
    put key value entries = entries ↔ get? entries key = some value := by
  constructor
  · intro h
    rw [← h, get?_put_self]
  · intro h
    induction entries with
    | nil => cases h
    | cons head rest ih =>
      obtain ⟨known, old⟩ := head
      rw [get?_cons] at h
      by_cases hkey : key = known
      · rw [if_pos hkey] at h
        rw [put, if_pos hkey.symm, Option.some.inj h]
      · rw [if_neg hkey] at h
        rw [put, if_neg (Ne.symm hkey), ih h]

/-- Where no key comes twice, an entry is the value of its key. -/
theorem mem_iff_get? {entries : Keyed α} (hnodup : (keys entries).Nodup) {key : String}
    {value : α} : (key, value) ∈ entries ↔ get? entries key = some value := by
  induction entries with
  | nil => simp only [List.not_mem_nil, get?_nil, reduceCtorEq]
  | cons head rest ih =>
      rcases head with ⟨known, old⟩
      rw [keys_cons, List.nodup_cons] at hnodup
      rw [List.mem_cons, get?_cons, Prod.mk.injEq, ih hnodup.2]
      by_cases hkey : key = known
      · -- The key is not among the later ones, so the first entry is the only one.
        have hlater : get? rest key = none :=
          get?_eq_none_of_not_mem_keys (hkey ▸ hnodup.1)
        simp only [hkey, true_and, if_true, Option.some.injEq]
        rw [← hkey, hlater]
        simp only [reduceCtorEq, or_false, eq_comm]
      · simp only [hkey, false_and, false_or, if_false]

section Selection

/-! A selection of entries that goes by the key. -/

variable (keeps : String → Bool) {key : String}

theorem keys_filter (entries : Keyed α) :
    keys (entries.filter fun entry => keeps entry.1) = (keys entries).filter keeps := by
  rw [keys, keys, List.filter_map]
  rfl

theorem get?_filter (entries : Keyed α) (h : keeps key = true) :
    get? (entries.filter fun entry => keeps entry.1) key = get? entries key := by
  induction entries with
  | nil => rfl
  | cons head rest ih =>
    obtain ⟨known, value⟩ := head
    by_cases hknown : keeps known = true
    · rw [List.filter_cons, if_pos hknown, get?_cons, get?_cons, ih]
    · have hne : key ≠ known := fun heq => hknown (heq ▸ h)
      rw [List.filter_cons, if_neg hknown, get?_cons, if_neg hne, ih]

theorem filter_put (entries : Keyed α) (value : α) (h : keeps key = true) :
    (put key value entries).filter (fun entry => keeps entry.1)
      = put key value (entries.filter fun entry => keeps entry.1) := by
  induction entries with
  | nil => rw [put, List.filter_cons, if_pos h, List.filter_nil, put]
  | cons head rest ih =>
    obtain ⟨known, old⟩ := head
    by_cases hkey : known = key
    · subst hkey
      rw [put, if_pos rfl, List.filter_cons, List.filter_cons, if_pos h, if_pos h, put, if_pos rfl]
    · rw [put, if_neg hkey, List.filter_cons, List.filter_cons]
      by_cases hknown : keeps known = true
      · rw [if_pos hknown, if_pos hknown, put, if_neg hkey, ih]
      · rw [if_neg hknown, if_neg hknown, ih]

end Selection

end Keyed

end Costwise
