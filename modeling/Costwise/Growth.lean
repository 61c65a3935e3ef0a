/-!
# Growth Classes

The eight classes that a verdict is chosen from, best to worst. They are
totally ordered by rank, and a whole program is as bad as its worst function.

## Main definitions

* `Growth`: A growth class.
* `Growth.rank`: Its place in the order.
* `Growth.worst`: The worst of several classes.
* `Growth.label`, `Growth.explanation`: What a reader is shown.

## Theorems

* `le_worst`: No class is worse than the worst.
* `worst_mem`: The worst class is one of those given, unless there is none.
-/

namespace Costwise

/-- How the work of a function grows with the size of its input. -/
inductive Growth where
  /-- A fixed number of operations. -/
  | constant
  /-- The input is halved at each step. -/
  | logarithmic
  /-- Each element is visited a bounded number of times. -/
  | linear
  /-- The input is split and put together again. -/
  | linearithmic
  /-- Every pair of elements is visited. -/
  | quadratic
  /-- Every triple of elements is visited. -/
  | cubic
  /-- The work doubles with every element. -/
  | exponential
  /-- Every ordering of the input is visited. -/
  | factorial
  deriving DecidableEq, Repr, Inhabited

namespace Growth

/-- The place of a class in the order, the best first. -/
def rank : Growth → Nat
  | constant => 0
  | logarithmic => 1
  | linear => 2
  | linearithmic => 3
  | quadratic => 4
  | cubic => 5
  | exponential => 6
  | factorial => 7

/-- All classes, best to worst. -/
def all : List Growth :=
  [constant, logarithmic, linear, linearithmic, quadratic, cubic, exponential, factorial]

theorem rank_injective {a b : Growth} (h : a.rank = b.rank) : a = b := by
  cases a <;> cases b <;> first | rfl | exact absurd h (by decide)

instance : LE Growth where
  le a b := a.rank ≤ b.rank

instance (a b : Growth) : Decidable (a ≤ b) :=
  inferInstanceAs (Decidable (a.rank ≤ b.rank))

/-- The worse of two classes. -/
def worse (a b : Growth) : Growth :=
  if a ≤ b then b else a

/-- The worst of several classes; constant if there is none. -/
def worst (classes : List Growth) : Growth :=
  classes.foldr worse constant

theorem worst_cons (a : Growth) (rest : List Growth) : worst (a :: rest) = worse a (worst rest) :=
  rfl

theorem rank_worse (a b : Growth) : (worse a b).rank = max a.rank b.rank := by
  cases a <;> cases b <;> decide

theorem le_worst {a : Growth} {classes : List Growth} (h : a ∈ classes) : a ≤ worst classes := by
  induction classes with
  | nil => exact absurd h List.not_mem_nil
  | cons c rest ih =>
    show a.rank ≤ (worst (c :: rest)).rank
    rw [worst_cons, rank_worse]
    rcases List.mem_cons.mp h with rfl | h
    · exact Nat.le_max_left _ _
    · exact Nat.le_trans (ih h) (Nat.le_max_right _ _)

theorem worst_mem {classes : List Growth} (h : classes ≠ []) : worst classes ∈ classes := by
  induction classes with
  | nil => exact absurd rfl h
  | cons c rest ih =>
    rw [worst_cons, worse]
    split
    · by_cases hr : rest = []
      · subst hr
        rename_i hle
        cases c <;> first | exact List.mem_cons_self | exact absurd hle (by decide)
      · exact List.mem_cons_of_mem _ (ih hr)
    · exact List.mem_cons_self

/-- The name of a class. -/
def name : Growth → String
  | constant => "CONSTANT"
  | logarithmic => "LOGARITHMIC"
  | linear => "LINEAR"
  | linearithmic => "LINEARITHMIC"
  | quadratic => "QUADRATIC"
  | cubic => "CUBIC"
  | exponential => "EXPONENTIAL"
  | factorial => "FACTORIAL"

/-- The class of a name. -/
def ofName? (name : String) : Option Growth :=
  all.find? (·.name == name)

/-- How a class is written. -/
def label : Growth → String
  | constant => "O(1)"
  | logarithmic => "O(log n)"
  | linear => "O(n)"
  | linearithmic => "O(n log n)"
  | quadratic => "O(n²)"
  | cubic => "O(n³)"
  | exponential => "O(2^n)"
  | factorial => "O(n!)"

/-- The style in which the label of a class is shown where styles exist. -/
def style : Growth → String
  | constant => "bold green"
  | logarithmic => "green"
  | linear => "blue"
  | linearithmic => "yellow"
  | quadratic => "dark_orange"
  | cubic => "red"
  | exponential => "bold red"
  | factorial => "magenta"

/-- What a class means. -/
def explanation : Growth → String
  | constant => "O(1) - Constant time. The code performs a fixed number of operations " ++
      "regardless of input size."
  | logarithmic => "O(log n) - Logarithmic time. The problem size is halved at each step, " ++
      "as in binary search."
  | linear => "O(n) - Linear time. The code visits each input element a bounded " ++
      "number of times."
  | linearithmic => "O(n log n) - Linearithmic time. Typical of divide-and-conquer " ++
      "algorithms such as merge sort and quicksort."
  | quadratic => "O(n²) - Quadratic time. Usually two nested loops over the input."
  | cubic => "O(n³) - Cubic time. Usually three nested loops over the input."
  | exponential => "O(2^n) - Exponential time. Recursive calls branch at each step, " ++
      "doubling the work for every extra input element."
  | factorial => "O(n!) - Factorial time. The code explores every ordering of the " ++
      "input, as when generating permutations."

end Growth

end Costwise
