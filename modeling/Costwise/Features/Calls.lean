import Costwise.Keyed

/-!
# Call Counts

How often each name is called. The names stand in the order of their first
call, because lists of helpers and notes on frequent calls are printed in that
order.

## Main definitions

* `Calls`: Names with their counts, first call first.
* `Calls.count`: How often a name is called.
* `Calls.add`: Counts more calls of a name.
* `Calls.merge`: Counts all calls of another tally as well.

## Theorems

* `count_add_self`: The counted name gains what was added.
* `count_add_of_ne`: Other names gain nothing.
* `keys_add`: A new name comes last, a known one keeps its place.
-/

namespace Costwise

/-- Names with the number of their calls, in the order of the first call. -/
abbrev Calls := Keyed Nat

namespace Calls

/-- How often a name is called. -/
def count (calls : Calls) (name : String) : Nat :=
  (Keyed.get? calls name).getD 0

/-- Counts some more calls of a name. -/
def add (name : String) (more : Nat) (calls : Calls) : Calls :=
  Keyed.put name (count calls name + more) calls

/-- Counts all calls of another tally as well. -/
def merge (calls others : Calls) : Calls :=
  others.foldl (fun total (name, n) => add name n total) calls

theorem count_add_self (calls : Calls) (name : String) (more : Nat) :
    count (add name more calls) name = count calls name + more := by
  rw [count, add, Keyed.get?_put_self, Option.getD_some]

theorem count_add_of_ne (calls : Calls) {name other : String} (more : Nat) (hne : other ≠ name) :
    count (add name more calls) other = count calls other := by
  rw [count, add, Keyed.get?_put_of_ne _ _ hne, count]

theorem keys_add (calls : Calls) (name : String) (more : Nat) :
    Keyed.keys (add name more calls) =
      if name ∈ Keyed.keys calls then Keyed.keys calls else Keyed.keys calls ++ [name] :=
  Keyed.keys_put calls name _

end Calls

end Costwise
