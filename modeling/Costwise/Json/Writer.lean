import Costwise.Json.Value
import Costwise.Number.Decimal

/-!
# Writing JSON

Reports are written with two columns of indentation for each level, one item
to a line, and characters beyond ASCII as they are. The same rules without
line breaks give the compact form.

## Main definitions

* `Json.quoted`: A text in quotes.
* `Json.Spacing`: What stands between the parts of a list or an object.
* `Json.pretty`: The indented form.
* `Json.compact`: The form on one line.
-/

namespace Costwise

namespace Json

/-- A hexadecimal digit. -/
def hexDigit (n : Nat) : Char :=
  Nat.digitChar n

/-- A character inside quotes. -/
def escaped (c : Char) : List Char :=
  match c with
  | '"' => ['\\', '"']
  | '\\' => ['\\', '\\']
  | '\n' => ['\\', 'n']
  | '\r' => ['\\', 'r']
  | '\t' => ['\\', 't']
  | '\x08' => ['\\', 'b']
  | '\x0c' => ['\\', 'f']
  | c =>
    if c.toNat < 0x20 then
      ['\\', 'u', '0', '0', hexDigit (c.toNat / 16), hexDigit (c.toNat % 16)]
    else [c]

/-- A text in quotes. -/
def quoted (text : String) : List Char :=
  '"' :: text.toList.flatMap escaped ++ ['"']

/-- A number that is not an integer. -/
def realText : Binary64 → List Char
  | .nan => "NaN".toList
  | .infinite negative => Binary64.signText negative ++ "Infinity".toList
  | value => value.shortestText.toList

/-- What stands between the parts of a list or an object. -/
structure Spacing where
  /-- Before an item at a level. -/
  line : Nat → List Char
  /-- Between two items, before the line. -/
  comma : List Char
  /-- Between a key and its value. -/
  colon : List Char

/-- One item to a line, two columns for each level. -/
def Spacing.indented : Spacing where
  line level := '\n' :: List.replicate (2 * level) ' '
  comma := [',']
  colon := [':', ' ']

/-- Everything on one line. -/
def Spacing.dense : Spacing where
  line _ := []
  comma := [',', ' ']
  colon := [':', ' ']

mutual

/-- Writes a value that stands at a level. -/
def write (spacing : Spacing) (level : Nat) : Json → List Char
  | null => "null".toList
  | bool true => "true".toList
  | bool false => "false".toList
  | int n => (toString n).toList
  | real value => realText value
  | str text => quoted text
  | arr [] => ['[', ']']
  | arr (item :: items) =>
    '[' :: spacing.line (level + 1) ++ write spacing (level + 1) item ++
      writeItems spacing (level + 1) items ++ spacing.line level ++ [']']
  | obj [] => ['\x7b', '\x7d']
  | obj (member :: members) =>
    '\x7b' :: spacing.line (level + 1) ++ writeMember spacing (level + 1) member ++
      writeMembers spacing (level + 1) members ++ spacing.line level ++ ['\x7d']

/-- Writes the items after the first. -/
def writeItems (spacing : Spacing) (level : Nat) : List Json → List Char
  | [] => []
  | item :: items =>
    spacing.comma ++ spacing.line level ++ write spacing level item ++
      writeItems spacing level items

/-- Writes a key and its value. -/
def writeMember (spacing : Spacing) (level : Nat) : String × Json → List Char
  | (key, value) => quoted key ++ spacing.colon ++ write spacing level value

/-- Writes the members after the first. -/
def writeMembers (spacing : Spacing) (level : Nat) : List (String × Json) → List Char
  | [] => []
  | member :: members =>
    spacing.comma ++ spacing.line level ++ writeMember spacing level member ++
      writeMembers spacing level members

end

/-- The indented form. -/
def pretty (value : Json) : String :=
  String.ofList (value.write .indented 0)

/-- The form on one line. -/
def compact (value : Json) : String :=
  String.ofList (value.write .dense 0)

end Json

end Costwise
