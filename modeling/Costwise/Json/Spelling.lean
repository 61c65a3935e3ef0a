import Costwise.Json.Value
import Costwise.Number.Decimal
import Costwise.Text.Quoted

/-!
# Values in Messages

How a value looks where a message speaks of it. A text stands for itself when
it is the whole value and is quoted inside a list or an object; the empty
value and the two answers are spelled out.

## Main definitions

* `Json.spelling`: A value in a message.
* `Json.innerSpelling`: A value inside a list or an object.
* `Json.kindName`: What a message calls the kind of a value.
-/

namespace Costwise

namespace Json

mutual

/-- A value inside a list or an object. -/
def innerSpelling : Json → String
  | null => "None"
  | bool true => "True"
  | bool false => "False"
  | int n => toString n
  | real value => value.shortestText
  | str text => Text.quote text
  | arr items => "[" ++ ", ".intercalate (itemSpellings items) ++ "]"
  | obj members => "\x7b" ++ ", ".intercalate (memberSpellings members) ++ "\x7d"

/-- The items of a list. -/
def itemSpellings : List Json → List String
  | [] => []
  | item :: items => innerSpelling item :: itemSpellings items

/-- The members of an object. -/
def memberSpellings : List (String × Json) → List String
  | [] => []
  | (key, value) :: members =>
    (Text.quote key ++ ": " ++ innerSpelling value) :: memberSpellings members

end

/-- A value in a message. -/
def spelling : Json → String
  | str text => text
  | value => innerSpelling value

/-- What a message calls the kind of a value. -/
def kindName : Json → String
  | null => "NoneType"
  | bool _ => "bool"
  | int _ => "int"
  | real _ => "float"
  | str _ => "str"
  | arr _ => "list"
  | obj _ => "dict"

end Json

end Costwise
