import Costwise.Json.Spelling

/-!
# Log Context

What a message is about: the source that is analysed and the function in it.
Blocks of work add to the context and take it back when they end. A block may
name a key without giving it a value; that counts as not naming it. Any value
will do, but those that count as a no are not shown.

## Main definitions

* `Context`: The keys in force.
* `Context.given`: What a block really adds.
* `Context.extend`: The context inside a block.
* `Context.label`: The context as it stands in front of a message.
-/

namespace Costwise

namespace Log

/-- What messages are about. -/
abbrev Context := Keyed Json

namespace Context

/-- The keys that are shown, in order. -/
def shownKeys : List String := ["source", "function"]

/-- Whether a value is one at all. -/
def isValue : Json → Bool
  | .null => false
  | _ => true

/-- What a block adds: the keys that it gives a value. -/
def given (keys : Keyed Json) : Context :=
  keys.filter fun (_, value) => isValue value

/-- The context inside a block that adds something. -/
def extend (context added : Context) : Context :=
  added.foldl (fun context (key, value) => Keyed.put key value context) context

/-- The context as it stands in front of a message, empty if there is nothing to show. -/
def label (context : Context) : String :=
  let parts := shownKeys.filterMap fun key =>
    ((Keyed.get? context key).filter Json.isTrue).map fun value => key ++ "=" ++ value.spelling
  if parts.isEmpty then "" else "[" ++ ", ".intercalate parts ++ "] "

end Context

end Log

end Costwise
