import Costwise.Proofs.Appearance
import Costwise.Proofs.Rearrangement
import Costwise.Report.Frequency
import Mathlib.Algebra.Ring.Nat

/-!
# The Table of Call Counts

A report ends with a table of the names that its functions call, frequent names
first. Three parts of the program have a hand in it. The walk of each function
counts calls by name, the report adds the counts of all functions up, and a sort
puts the sums in order. Each could spoil the table in its own way: a call could
count for two functions, a name could come twice, and names with equal counts
could stand in the order in which they happened to be met.

The sums are handled as one long tally. Adding up the functions is merging all of
their entries into an empty tally (`totalCalls_eq_merge`), so rearranging the
functions or the entries of one of them is rearranging one list, and counting in
another order gives the same counts (`Calls.Same`).

That the sums count nodes of the tree is a matter of counting pairs in two ways.
A pair is a function and a call that its walk takes up. Function by function the
pairs are the counts of the records, and call by call there is at most one pair,
because no two walks take up the same node.

The order of the table is total on entries, names included, so a sorted list is
determined by its entries alone (`sorted_eq_of_perm`).

## Main definitions

* `Frequency.Before`: One entry comes strictly before another.
* `Verdict.Rearranged`: The same functions with the same counts, in another order.
* `Program.callSites`: The calls of a name that some walk takes up.

## Theorems

* `Calls.count_merge`: A merged tally has the sum of the counts.
* `Calls.same_merge_of_perm`: The order of merging changes the order at most.
* `sorted_eq_of_perm`: Sorting forgets the order.
* `sorted_pairwise`: Names that come once are in strict order.
* `countP_visited`: What a walk counts, counted in the tree.
* `sum_countP_eq`: Pairs counted in two ways.
* `count_totalCalls`: A sum is the number of call sites.
* `callTable_ranks_sites`: The table of call counts.
-/

namespace Costwise

open Syntax

namespace Calls

theorem merge_cons (calls : Calls) (name : String) (n : Nat) (others : Calls) :
    merge calls ((name, n) :: others) = merge (add name n calls) others := rfl

theorem nodup_keys_merge {calls : Calls} (h : (Keyed.keys calls).Nodup) (others : Calls) :
    (Keyed.keys (merge calls others)).Nodup := by
  induction others generalizing calls with
  | nil => exact h
  | cons entry rest ih => exact ih (nodup_keys_add h entry.1 entry.2)

theorem mem_keys_merge {calls others : Calls} {name : String}
    (h : name ∈ Keyed.keys (merge calls others)) :
    name ∈ Keyed.keys calls ∨ name ∈ Keyed.keys others := by
  induction others generalizing calls with
  | nil => exact .inl h
  | cons entry rest ih =>
      rcases entry with ⟨first, n⟩
      rw [merge_cons] at h
      rw [Keyed.keys_cons, List.mem_cons]
      rcases ih h with h | h
      · rw [keys_add] at h
        split at h
        · exact .inl h
        · rcases List.mem_append.mp h with h | h
          · exact .inl h
          · exact .inr (.inl (List.mem_singleton.mp h))
      · exact .inr (.inr h)

/-- A merged tally has the sum of the counts, if no name comes twice in what is
    merged. -/
theorem count_merge (calls : Calls) {others : Calls} (h : (Keyed.keys others).Nodup)
    (name : String) : count (merge calls others) name = count calls name + count others name := by
  induction others generalizing calls with
  | nil => rfl
  | cons entry rest ih =>
      rcases entry with ⟨first, n⟩
      rw [Keyed.keys_cons, List.nodup_cons] at h
      rw [merge_cons, ih (add first n calls) h.2]
      by_cases hname : name = first
      · subst hname
        have hlater : count rest name = 0 := by
          rw [count, Keyed.get?_eq_none_of_not_mem_keys h.1, Option.getD_none]
        have hfirst : count ((name, n) :: rest) name = n := by
          rw [count, Keyed.get?_cons, if_pos rfl, Option.getD_some]
        rw [count_add_self, hlater, hfirst, Nat.add_zero]
      · have hrest : count ((first, n) :: rest) name = count rest name := by
          rw [count, Keyed.get?_cons, if_neg hname, ← count]
        rw [count_add_of_ne calls n hname, hrest]

theorem Same.merge {calls others : Calls} (h : Same calls others) (more : Calls) :
    Same (Calls.merge calls more) (Calls.merge others more) := by
  induction more generalizing calls others with
  | nil => exact h
  | cons entry rest ih => exact ih (h.add entry.1 entry.2)

/-- Counts may be merged in any order. The names may come in another order then, and
    nothing else changes. -/
theorem same_merge_of_perm {first second : Calls} (h : first.Perm second) (calls : Calls) :
    Same (merge calls first) (merge calls second) := by
  induction h generalizing calls with
  | nil => exact Same.refl _
  | cons entry _ ih => exact ih (add entry.1 entry.2 calls)
  | swap entry other rest =>
      exact (same_add_swap calls other.1 entry.1 other.2 entry.2).merge rest
  | trans _ _ ih ih' => exact (ih calls).trans (ih' calls)

/-- The same counts are the same entries, if no name comes twice. -/
theorem Same.perm {calls others : Calls} (h : Same calls others)
    (hcalls : (Keyed.keys calls).Nodup) : calls.Perm others := by
  have hothers : (Keyed.keys others).Nodup := h.keys_perm.nodup_iff.mp hcalls
  refine (List.perm_ext_iff_of_nodup (.of_map _ hcalls) (.of_map _ hothers)).mpr ?_
  rintro ⟨name, n⟩
  rw [Keyed.mem_iff_get? hcalls, Keyed.mem_iff_get? hothers, h.get?_eq]

end Calls

namespace Frequency

/-- One entry comes strictly before another: it has the greater count, or the same
    count and the smaller name. Names are compared by code point. -/
def Before (a b : String × Int) : Prop :=
  b.2 < a.2 ∨ a.2 = b.2 ∧ a.1 < b.1

theorem precedes_iff {a b : String × Int} :
    precedes a b = true ↔ b.2 < a.2 ∨ a.2 = b.2 ∧ a.1 ≤ b.1 := by
  simp only [precedes, Bool.or_eq_true, Bool.and_eq_true, decide_eq_true_eq, beq_iff_eq]

theorem precedes_trans (a b c : String × Int) (h : precedes a b = true)
    (h' : precedes b c = true) : precedes a c = true := by
  rw [precedes_iff] at h h' ⊢
  rcases h with h | ⟨h, hname⟩
  · exact .inl (by omega)
  · rcases h' with h' | ⟨h', hname'⟩
    · exact .inl (by omega)
    · exact .inr ⟨h.trans h', String.le_trans hname hname'⟩

theorem precedes_total (a b : String × Int) : (precedes a b || precedes b a) = true := by
  rw [Bool.or_eq_true, precedes_iff, precedes_iff]
  by_cases hcount : a.2 = b.2
  · rcases String.le_total a.1 b.1 with hname | hname
    · exact .inl (.inr ⟨hcount, hname⟩)
    · exact .inr (.inr ⟨hcount.symm, hname⟩)
  · by_cases hless : b.2 < a.2
    · exact .inl (.inl hless)
    · exact .inr (.inl (by omega))

theorem precedes_antisymm {a b : String × Int} (h : precedes a b = true)
    (h' : precedes b a = true) : a = b := by
  rw [precedes_iff] at h h'
  rcases h with h | ⟨hcount, hname⟩
  · rcases h' with h' | ⟨h', _⟩ <;> omega
  · rcases h' with h' | ⟨_, hname'⟩
    · omega
    · exact Prod.ext (String.le_antisymm hname hname') hcount

theorem before_of_precedes {a b : String × Int} (h : precedes a b = true) (hne : a.1 ≠ b.1) :
    Before a b := by
  rcases precedes_iff.mp h with hcount | ⟨hcount, hname⟩
  · exact .inl hcount
  · exact .inr ⟨hcount, String.not_le.mp fun hback => hne (String.le_antisymm hname hback)⟩

theorem pairwise_precedes_sorted (counts : List (String × Int)) :
    (sorted counts).Pairwise fun a b => precedes a b = true :=
  List.pairwise_mergeSort precedes_trans precedes_total counts

/-- Sorting forgets the order: entries that precede each other are equal, so there is
    one way to sort them. -/
theorem sorted_eq_of_perm {first second : List (String × Int)} (h : first.Perm second) :
    sorted first = sorted second := by
  refine List.Perm.eq_of_pairwise (fun a b _ _ => precedes_antisymm)
    (pairwise_precedes_sorted first) (pairwise_precedes_sorted second) ?_
  exact ((List.mergeSort_perm first precedes).trans h).trans
    (List.mergeSort_perm second precedes).symm

theorem nodup_names_sorted {counts : List (String × Int)} (h : (counts.map (·.1)).Nodup) :
    ((sorted counts).map (·.1)).Nodup :=
  ((List.mergeSort_perm counts precedes).map _).nodup_iff.mpr h

/-- Names that come once are in strict order. -/
theorem sorted_pairwise {counts : List (String × Int)} (h : (counts.map (·.1)).Nodup) :
    (sorted counts).Pairwise Before :=
  (pairwise_precedes_sorted counts).imp₂ (fun _ _ => before_of_precedes)
    (List.pairwise_map.mp (nodup_names_sorted h))

theorem map_fst_ofCalls (calls : Calls) : (ofCalls calls).map (·.1) = Keyed.keys calls := by
  rw [ofCalls, List.map_map, Keyed.keys]
  rfl

theorem mem_sorted_ofCalls {calls : Calls} (hnodup : (Keyed.keys calls).Nodup) {name : String}
    {n : Int} :
    (name, n) ∈ sorted (ofCalls calls) ↔ ∃ m : Nat, Keyed.get? calls name = some m ∧ n = m := by
  rw [sorted, List.mem_mergeSort, ofCalls, List.mem_map]
  constructor
  · rintro ⟨⟨known, m⟩, hmem, hentry⟩
    rcases Prod.mk.inj hentry with ⟨rfl, rfl⟩
    exact ⟨m, (Keyed.mem_iff_get? hnodup).mp hmem, rfl⟩
  · rintro ⟨m, hget, rfl⟩
    exact ⟨(name, m), (Keyed.mem_iff_get? hnodup).mpr hget, rfl⟩

end Frequency

/-- The same functions as far as their calls go, in another order, and each with its
    counts in another order. -/
def Verdict.Rearranged (verdicts others : List Verdict) : Prop :=
  ∃ middle, verdicts.Perm middle ∧
    List.Forall₂ (fun verdict other => verdict.record.calls.Perm other.record.calls) middle others

namespace Report

/-- Adding the functions up is merging all of their entries. -/
theorem totalCalls_eq_merge (verdicts : List Verdict) :
    (judged verdicts).totalCalls = Calls.merge [] (verdicts.flatMap (·.record.calls)) := by
  rw [Calls.merge, List.foldl_flatMap]
  rfl

theorem nodup_keys_totalCalls (verdicts : List Verdict) :
    (Keyed.keys (judged verdicts).totalCalls).Nodup := by
  have hstart : (Keyed.keys ([] : Calls)).Nodup := List.nodup_nil
  rw [totalCalls_eq_merge]
  exact Calls.nodup_keys_merge hstart _

/-- The entries of rearranged functions are the same entries. -/
theorem perm_calls_of_rearranged {verdicts others : List Verdict}
    (h : Verdict.Rearranged verdicts others) :
    (verdicts.flatMap (·.record.calls)).Perm (others.flatMap (·.record.calls)) := by
  rcases h with ⟨middle, hperm, hcalls⟩
  refine (hperm.flatMap_right _).trans ?_
  clear hperm
  induction hcalls with
  | nil => exact List.Perm.refl _
  | cons hfirst _ ih =>
      rw [List.flatMap_cons, List.flatMap_cons]
      exact hfirst.append ih

theorem sorted_totalCalls_of_rearranged {verdicts others : List Verdict}
    (h : Verdict.Rearranged verdicts others) :
    Frequency.sorted (Frequency.ofCalls (judged others).totalCalls)
      = Frequency.sorted (Frequency.ofCalls (judged verdicts).totalCalls) := by
  have hsame : Calls.Same (judged verdicts).totalCalls (judged others).totalCalls := by
    rw [totalCalls_eq_merge, totalCalls_eq_merge]
    exact Calls.same_merge_of_perm (perm_calls_of_rearranged h) []
  have hperm := hsame.perm (nodup_keys_totalCalls verdicts)
  exact (Frequency.sorted_eq_of_perm (hperm.map _)).symm

theorem count_totalCalls_eq_sum {verdicts : List Verdict}
    (h : ∀ verdict ∈ verdicts, (Keyed.keys verdict.record.calls).Nodup) (name : String) :
    Calls.count (judged verdicts).totalCalls name
      = (verdicts.map fun verdict => Calls.count verdict.record.calls name).sum := by
  -- The tally is carried along, so the induction is over every tally to begin with.
  suffices hstart : ∀ start, Calls.count
      (verdicts.foldl (fun total verdict => Calls.merge total verdict.record.calls) start) name
        = Calls.count start name
          + (verdicts.map fun verdict => Calls.count verdict.record.calls name).sum from
    (hstart []).trans (Nat.zero_add _)
  induction verdicts with
  | nil => exact fun _ => rfl
  | cons verdict rest ih =>
      intro start
      have hrest := ih fun later hlater => h later (List.mem_cons_of_mem _ hlater)
      rw [List.foldl_cons, hrest, Calls.count_merge start (h verdict List.mem_cons_self),
        List.map_cons, List.sum_cons, Nat.add_assoc]

theorem exists_of_mem_keys_totalCalls {verdicts : List Verdict} {name : String}
    (h : name ∈ Keyed.keys (judged verdicts).totalCalls) :
    ∃ verdict ∈ verdicts, name ∈ Keyed.keys verdict.record.calls := by
  rw [totalCalls_eq_merge] at h
  rcases Calls.mem_keys_merge h with h | h
  · exact absurd h List.not_mem_nil
  · rw [Keyed.keys, List.map_flatMap] at h
    exact List.mem_flatMap.mp h

end Report

theorem countP_or_of_apart {α : Type} {items : List α} {p q : α → Bool}
    (h : ∀ item ∈ items, p item = true → q item = false) :
    items.countP (fun item => p item || q item) = items.countP p + items.countP q := by
  induction items with
  | nil => rfl
  | cons first rest ih =>
      have hfirst := h first List.mem_cons_self
      have hrest := ih fun later hlater => h later (List.mem_cons_of_mem _ hlater)
      simp only [List.countP_cons, hrest]
      cases hp : p first with
      | false =>
          simp only [Bool.false_or, Bool.false_eq_true, if_false]
          omega
      | true =>
          simp only [hfirst hp, Bool.or_false, Bool.false_eq_true, if_true, if_false]
          omega

/-- Pairs counted in two ways. If at most one group takes up each item, then adding up
    what the groups take up counts the items that are taken up at all. -/
theorem sum_countP_eq {α β : Type} {items : List α} {groups : List β} (counts : α → Bool)
    {takes : β → α → Bool} (h : ∀ item ∈ items, groups.countP (takes · item) ≤ 1) :
    (groups.map fun group => items.countP fun item => counts item && takes group item).sum
      = items.countP fun item => counts item && groups.any (takes · item) := by
  induction groups with
  | nil =>
      simp only [List.map_nil, List.sum_nil, List.any_nil, Bool.and_false, List.countP_false,
        Function.const_apply]
  | cons first rest ih =>
      have hrest : ∀ item ∈ items, rest.countP (takes · item) ≤ 1 := by
        intro item hitem
        have hle := h item hitem
        rw [List.countP_cons] at hle
        omega
      -- What the first group takes up is left to it by the others.
      have hapart : ∀ item ∈ items, (counts item && takes first item) = true →
          (counts item && rest.any (takes · item)) = false := by
        intro item hitem htaken
        have hle := h item hitem
        rw [List.countP_cons, if_pos (Bool.and_eq_true_iff.mp htaken).2] at hle
        have hnone : rest.any (takes · item) = false := by
          rw [List.any_eq_false, ← List.countP_eq_zero]
          omega
        rw [hnone, Bool.and_false]
      rw [List.map_cons, List.sum_cons, ih hrest, ← countP_or_of_apart hapart]
      simp only [List.any_cons, Bool.and_or_distrib_left]

namespace Definition

variable {program : Program} {anonymous : String} {definition : Definition}

/-- What a walk takes up of some kind, counted among the nodes of the program. -/
theorem countP_visited (hdistinct : program.root.Distinct)
    (h : definition ∈ program.definitions anonymous) (counts : Node → Bool) :
    definition.visited.countP counts
      = program.root.preorder.countP fun node => counts node && definition.visits node := by
  have hsubset : definition.visited ⊆ program.root.preorder := by
    rcases exists_lineage_body h with ⟨above, hbody⟩
    exact fun node hnode =>
      hbody.preorder_sublist.subset ((Node.reached_sublist _ _).subset hnode)
  -- Neither list repeats a node, and both have the nodes that the walk takes up.
  have hperm : definition.visited.Perm (program.root.preorder.filter (definition.visits ·)) := by
    have hvisited : definition.visited.Nodup := .of_map _ (nodup_visited hdistinct h)
    have hnodes : program.root.preorder.Nodup := .of_map _ hdistinct
    refine (List.perm_ext_iff_of_nodup hvisited (hnodes.filter _)).mpr fun node => ?_
    rw [List.mem_filter]
    constructor
    · exact fun hnode => ⟨hsubset hnode, (visits_iff hdistinct (hsubset hnode) h).mpr hnode⟩
    · rintro ⟨hnode, hvisits⟩
      exact (visits_iff hdistinct hnode h).mp hvisits
  rw [hperm.countP_eq, List.countP_filter]

theorem count_calls_of_record {source : Source} {record : Record}
    (h : definition.record source = .ok record) (name : String) :
    Calls.count record.calls name
      = definition.visited.countP fun node => source.calledName? node == some name := by
  rw [(tallied_of_record h).count_eq, List.count_filterMap, visited, Node.reached_eq_own,
    List.map_map, List.countP_map]
  rfl

theorem count_ne_zero_of_mem_keys {source : Source} {record : Record}
    (h : definition.record source = .ok record) {name : String}
    (hname : name ∈ Keyed.keys record.calls) : Calls.count record.calls name ≠ 0 := by
  have htallied := tallied_of_record h
  rw [htallied.keys_eq, List.mem_eraseDups, ← List.count_pos_iff, ← htallied.count_eq] at hname
  exact Nat.ne_of_gt hname

end Definition

namespace Syntax.Program

/-- The number of calls of a name in the tree of a program that the walk of some function
    takes up. -/
def callSites (program : Program) (anonymous name : String) : Nat :=
  program.root.preorder.countP fun node =>
    program.source.calledName? node == some name &&
      (program.definitions anonymous).any (·.visits node)

variable {program : Program} {anonymous : String} {verdicts : List Verdict}

theorem nodup_keys_of_verdicts (h : program.verdicts anonymous = .ok verdicts) :
    ∀ verdict ∈ verdicts, (Keyed.keys verdict.record.calls).Nodup := by
  intro verdict hverdict
  rcases exists_record_of_mem_verdicts h hverdict with ⟨definition, _, hrecord, _⟩
  exact (Definition.walked_of_record hrecord).1.consistent.nodup_keys

/-- The counts of all functions add up to the number of call sites. -/
theorem count_totalCalls (hdistinct : program.root.Distinct)
    (h : program.verdicts anonymous = .ok verdicts) (name : String) :
    Calls.count (Report.judged verdicts).totalCalls name = program.callSites anonymous name := by
  -- Function by function, the counts are those of the walks.
  have hwalks : verdicts.map (fun verdict => Calls.count verdict.record.calls name)
      = (program.definitions anonymous).map fun definition =>
          definition.visited.countP fun node => program.source.calledName? node == some name := by
    refine map_eq_of_mapM_eq_ok (fun definition verdict hverdict => ?_) h
    rcases exists_of_map_eq_ok hverdict with ⟨record, hrecord, rfl⟩
    exact Definition.count_calls_of_record hrecord name
  have htree : (program.definitions anonymous).map (fun definition =>
        definition.visited.countP fun node => program.source.calledName? node == some name)
      = (program.definitions anonymous).map fun definition =>
          program.root.preorder.countP fun node =>
            program.source.calledName? node == some name && definition.visits node :=
    List.map_congr_left fun definition hmem => Definition.countP_visited hdistinct hmem _
  -- Call by call, at most one walk takes it up.
  have hone : ∀ node ∈ program.root.preorder,
      (program.definitions anonymous).countP (·.visits node) ≤ 1 := by
    intro node hnode
    rw [List.countP_eq_length_filter]
    exact length_visitors_le_one anonymous hdistinct hnode
  rw [Report.count_totalCalls_eq_sum (nodup_keys_of_verdicts h), hwalks, htree,
    sum_countP_eq _ hone, callSites]

/-- A name with an entry is called in some function, so its count is not zero. -/
theorem count_totalCalls_ne_zero (h : program.verdicts anonymous = .ok verdicts) {name : String}
    (hname : name ∈ Keyed.keys (Report.judged verdicts).totalCalls) :
    Calls.count (Report.judged verdicts).totalCalls name ≠ 0 := by
  rcases Report.exists_of_mem_keys_totalCalls hname with ⟨verdict, hverdict, hkey⟩
  rcases exists_record_of_mem_verdicts h hverdict with ⟨definition, _, hrecord, _⟩
  have hcount := Definition.count_ne_zero_of_mem_keys hrecord hkey
  rw [Report.count_totalCalls_eq_sum (nodup_keys_of_verdicts h)]
  intro hzero
  exact hcount (List.sum_eq_zero_iff_forall_eq_nat.mp hzero _ (List.mem_map_of_mem hverdict))

/-- The table of call counts.

    Its entries are in strict order, the greater count first and equal counts by name, and
    no name comes twice. A name is there if some call of it is taken up by the walk of
    some function, with the number of such calls in the tree. Rearranging the functions or
    the counts of any of them leaves the table as it is. -/
theorem callTable_ranks_sites (program : Program) (anonymous : String)
    (hdistinct : program.root.Distinct) {verdicts : List Verdict}
    (h : program.verdicts anonymous = .ok verdicts) :
    let table := Frequency.sorted (Frequency.ofCalls (Report.judged verdicts).totalCalls)
    table.Pairwise Frequency.Before ∧ (table.map (·.1)).Nodup ∧
    (∀ name n, (name, n) ∈ table ↔
      0 < program.callSites anonymous name ∧ n = program.callSites anonymous name) ∧
    ∀ others, Verdict.Rearranged verdicts others →
      Frequency.sorted (Frequency.ofCalls (Report.judged others).totalCalls) = table := by
  have hkeys := Report.nodup_keys_totalCalls verdicts
  have hnames : ((Frequency.ofCalls (Report.judged verdicts).totalCalls).map (·.1)).Nodup := by
    rw [Frequency.map_fst_ofCalls]
    exact hkeys
  refine ⟨Frequency.sorted_pairwise hnames, Frequency.nodup_names_sorted hnames,
    fun name n => ?_, fun others => Report.sorted_totalCalls_of_rearranged⟩
  have hget := Calls.get?_eq_count fun hname : name ∈ Keyed.keys _ =>
    count_totalCalls_ne_zero h hname
  rw [count_totalCalls hdistinct h] at hget
  rw [Frequency.mem_sorted_ofCalls hkeys, hget]
  by_cases hzero : program.callSites anonymous name = 0
  · simp only [hzero, if_true, reduceCtorEq, false_and, exists_false, Nat.lt_irrefl]
  · simp only [hzero, if_false, Option.some.injEq, exists_eq_left', Nat.pos_of_ne_zero hzero,
      true_and]

end Syntax.Program

/-! The program `f=()=>{b();()=>{a();b()};a()};c()`. The inner arrow is a function of its
    own, and the last call is in no function. -/

namespace TiedCalls

/-- A call without arguments of a name of one letter. -/
def callAt (index start : Nat) : Node :=
  { index, kind := .call, start, stop := start + 3,
    children :=
      [{ index := index + 1, kind := .identifier, field := some .callee, start,
         stop := start + 1 }] }

/-- An arrow whose body is a block, which begins four bytes after it. -/
def arrowAt (index start stop : Nat) (field : Option Field) (calls : List Node) : Node :=
  { index, kind := .arrow, field, start, stop,
    children :=
      [{ index := index + 1, kind := .other "statement_block", field := some .body,
         start := start + 4, stop, children := calls }] }

def binding : Node :=
  { index := 1, kind := .declarator, start := 0, stop := 29,
    children :=
      [{ index := 2, kind := .identifier, field := some .name, start := 0, stop := 1 },
        arrowAt 3 2 29 (some .value)
          [callAt 5 7, arrowAt 7 11 24 none [callAt 9 16, callAt 11 20], callAt 13 25]] }

def program : Program :=
  ⟨.ofString "f=()=>\x7bb();()=>\x7ba();b()\x7d;a()\x7d;c()",
    { kind := .other "program", stop := 33, children := [binding, callAt 15 30] }⟩

/-- Both names are called twice, once in each function, and the last call is not
    counted. -/
theorem callTable_of_ties :
    program.root.Distinct ∧ ∃ verdicts, program.verdicts "" = .ok verdicts ∧
      let table := Frequency.sorted (Frequency.ofCalls (Report.judged verdicts).totalCalls)
      ("a", 2) ∈ table ∧ ("b", 2) ∈ table ∧ (∀ n, ("c", n) ∉ table) ∧
        Frequency.sorted (Frequency.ofCalls (Report.judged verdicts.reverse).totalCalls)
          = table := by
  have hdistinct : program.root.Distinct := by decide
  have ha : program.callSites "" "a" = 2 := by decide +kernel
  have hb : program.callSites "" "b" = 2 := by decide +kernel
  have hc : program.callSites "" "c" = 0 := by decide +kernel
  have hjudged : (program.verdicts "").isOk = true := by decide +kernel
  cases hmade : program.verdicts "" with
  | error overflow =>
      rw [hmade] at hjudged
      cases hjudged
  | ok verdicts =>
      rcases Program.callTable_ranks_sites program "" hdistinct hmade with
        ⟨_, _, hentries, hrearranged⟩
      refine ⟨hdistinct, verdicts, rfl, (hentries "a" 2).mpr ?_, (hentries "b" 2).mpr ?_,
        fun n hn => ?_, hrearranged _ ⟨_, (List.reverse_perm verdicts).symm, ?_⟩⟩
      · rw [ha]
        decide
      · rw [hb]
        decide
      · have hpos := ((hentries "c" n).mp hn).1
        rw [hc] at hpos
        exact absurd hpos (Nat.lt_irrefl 0)
      · exact List.forall₂_same.mpr fun _ _ => List.Perm.refl _

end TiedCalls

end Costwise
