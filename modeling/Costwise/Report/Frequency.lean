import Costwise.Report.Basic

/-!
# Call Frequency

Call counts in the order in which they are shown: frequent names first, names
with equal counts by code point. The order is total, so it does not depend on
where the counts come from.

## Main definitions

* `Frequency.precedes`: Whether one name is shown before another.
* `Frequency.sorted`: Counts in the order in which they are shown.
* `LineSpan.text`, `flagText`: How lines and flags are shown.
-/

namespace Costwise

namespace Frequency

/-- Whether one name is shown before another or in the same place: by count, the
    greater first, then by code point. -/
def precedes (a b : String × Int) : Bool :=
  decide (b.2 < a.2) || (a.2 == b.2 && decide (a.1 ≤ b.1))

/-- Counts in the order in which they are shown. -/
def sorted (counts : List (String × Int)) : List (String × Int) :=
  counts.mergeSort precedes

/-- The counts of a tally. -/
def ofCalls (calls : Calls) : List (String × Int) :=
  calls.map fun (name, n) => (name, (n : Int))

end Frequency

namespace LineSpan

/-- One line, or the first and the last. -/
def text (span : LineSpan) : String :=
  if span.first = span.last then s!"L{span.first}" else s!"L{span.first}-L{span.last}"

end LineSpan

/-- A mark for a yes, a dash for a no. -/
def flagText (flag : Bool) : String :=
  if flag then "✓" else "-"

end Costwise
