import Costwise.Keyed
import Costwise.Number.Binary64

/-!
# JSON Values

Configuration files, saved reports and printed reports are JSON. Objects keep
the order in which their keys first came, because it shows: in a saved file,
and in which of two bad keys is reported.

Integers and other numbers are different values. The first are unbounded, the
second are double-precision.

## Main definitions

* `Json`: A JSON value.
* `Json.isTrue`: Which values count as a yes.
-/

namespace Costwise

/-- A JSON value. -/
inductive Json where
  /-- The empty value. -/
  | null
  /-- A yes or a no. -/
  | bool (b : Bool)
  /-- A number without fraction and exponent. -/
  | int (n : Int)
  /-- Any other number. -/
  | real (value : Binary64)
  /-- A text. -/
  | str (text : String)
  /-- A list of values. -/
  | arr (items : List Json)
  /-- An object, its keys in order. -/
  | obj (members : List (String × Json))
  deriving Inhabited

namespace Json

/-- Which values count as a yes: all but the empty ones and zero. -/
def isTrue : Json → Bool
  | null => false
  | bool b => b
  | int n => n != 0
  | real value => !value.equals 0
  | str text => text != ""
  | arr items => !items.isEmpty
  | obj members => !members.isEmpty

end Json

end Costwise
