import Costwise.Json.Value
import Costwise.Number.Literal
import Costwise.Text.Lines

/-!
# Reading JSON

A reader that says what is wrong and where. While reading, a place is the text
that is left: it is what every function has in hand, and its length gives the
position once the whole text is known. So no function counts characters, and
the message is put together in one place, at the end.

Brackets nest, so the reader of values calls itself. It is given the length of
the text as its fuel, and since every call takes a character, that is enough.

## Main definitions

* `Json.Complaint`: What can be wrong with a text.
* `Json.Fault`: A complaint and the text that was left.
* `Json.read`: Reads a whole text.
* `Json.ReadError`: A complaint with its position.
* `Json.ReadError.message`: What is said about it.
-/

namespace Costwise

namespace Json

/-- What can be wrong with a text. -/
inductive Complaint where
  /-- The text begins with a byte order mark. -/
  | byteOrderMark
  /-- No value begins here. -/
  | value
  /-- No key begins here. -/
  | key
  /-- A colon is missing. -/
  | colon
  /-- A comma is missing. -/
  | comma
  /-- Something follows the value. -/
  | extra
  /-- A text has no end. -/
  | unterminated
  /-- A control character stands in a text. -/
  | control
  /-- No such escape exists. -/
  | escape
  /-- An escape by number lacks its four digits. -/
  | numericEscape
  /-- An integer has too many digits, this many. -/
  | longInteger (digits : Nat)
  deriving DecidableEq, Repr

/-- A complaint and the text that was left where it arose. -/
structure Fault where
  /-- What is wrong. -/
  complaint : Complaint
  /-- The text from there on. -/
  rest : List Char

/-- The four characters that may stand between tokens. -/
def isGap (c : Char) : Bool :=
  c == ' ' || c == '\t' || c == '\n' || c == '\r'

/-- The text from the next token on. -/
def skipGap (text : List Char) : List Char :=
  text.dropWhile isGap

/-- The number that four hexadecimal digits stand for. -/
def hex4? (a b c d : Char) : Option Nat :=
  Literal.digitsIn? 16 [a, b, c, d]

/-- The characters of a text from their numbers. Two halves of a pair next to
    each other are one character; a half alone has none and is replaced. -/
def joinPairs : List Nat → List Char
  | [] => []
  | [code] => [if 0xD800 ≤ code ∧ code ≤ 0xDFFF then Char.ofNat 0xFFFD else Char.ofNat code]
  | code :: next :: codes =>
    if 0xD800 ≤ code ∧ code ≤ 0xDBFF ∧ 0xDC00 ≤ next ∧ next ≤ 0xDFFF then
      Char.ofNat (0x10000 + (code - 0xD800) * 0x400 + (next - 0xDC00)) :: joinPairs codes
    else if 0xD800 ≤ code ∧ code ≤ 0xDFFF then Char.ofNat 0xFFFD :: joinPairs (next :: codes)
    else Char.ofNat code :: joinPairs (next :: codes)

/-- The character that a one-letter escape stands for. -/
def shortEscape? : Char → Option Char
  | '"' => some '"'
  | '\\' => some '\\'
  | '/' => some '/'
  | 'b' => some '\x08'
  | 'f' => some '\x0c'
  | 'n' => some '\n'
  | 'r' => some '\r'
  | 't' => some '\t'
  | _ => none

/-- Reads a text up to its closing quote. `start` is the place of the opening
    quote, `seen` the characters read so far by number, in reverse. -/
def readText (start : List Char) (seen : List Nat) :
    List Char → Except Fault (String × List Char)
  | [] => .error ⟨.unterminated, start⟩
  | '"' :: rest => .ok (String.ofList (joinPairs seen.reverse), rest)
  | ['\\'] => .error ⟨.unterminated, start⟩
  | '\\' :: 'u' :: a :: b :: c :: d :: rest =>
    match hex4? a b c d, rest.isEmpty with
    | some code, false => readText start (code :: seen) rest
    | _, _ => .error ⟨.numericEscape, 'u' :: a :: b :: c :: d :: rest⟩
  | '\\' :: c :: rest =>
    if c = 'u' then .error ⟨.numericEscape, c :: rest⟩
    else
      match shortEscape? c with
      | some meant => readText start (meant.toNat :: seen) rest
      | none => .error ⟨.escape, '\\' :: c :: rest⟩
  | c :: rest =>
    if c.toNat < 0x20 then .error ⟨.control, c :: rest⟩
    else readText start (c.toNat :: seen) rest

/-- The digits of a fraction with its point, if a digit follows the point. -/
def splitFraction : List Char → List Char × List Char
  | '.' :: c :: rest =>
    if c.isDigit then
      let (digits, rest) := Literal.splitDigits (c :: rest)
      ('.' :: digits, rest)
    else ([], '.' :: c :: rest)
  | text => ([], text)

/-- An exponent with its mark, if it has a digit. -/
def splitExponent : List Char → List Char × List Char
  | [] => ([], [])
  | mark :: rest =>
    if mark = 'e' ∨ mark = 'E' then
      let (sign, digits) := match rest with
        | '+' :: digits => (['+'], digits)
        | '-' :: digits => (['-'], digits)
        | digits => ([], digits)
      let (digits, after) := Literal.splitDigits digits
      if digits.isEmpty then ([], mark :: rest) else (mark :: sign ++ digits, after)
    else ([], mark :: rest)

/-- The digits before the point: a zero alone, or digits that begin with another. -/
def splitWhole : List Char → List Char × List Char
  | '0' :: rest => (['0'], rest)
  | text => Literal.splitDigits text

/-- Reads a number. -/
def readNumber (text : List Char) : Except Fault (Json × List Char) :=
  let (negative, body) := match text with
    | '-' :: body => (true, body)
    | body => (false, body)
  let (whole, rest) := splitWhole body
  if whole.isEmpty then .error ⟨.value, text⟩
  else
    let (fraction, rest) := splitFraction rest
    let (exponent, rest) := splitExponent rest
    if fraction.isEmpty && exponent.isEmpty then
      if Literal.decimalDigitLimit < whole.length then
        .error ⟨.longInteger whole.length, text⟩
      else
        let value : Int := Literal.decimalValue whole
        .ok (int (if negative then -value else value), rest)
    else
      match Literal.decimal? negative (whole ++ fraction ++ exponent) with
      | some value => .ok (real value, rest)
      | none => .error ⟨.value, text⟩

/-- The values that are written as a word. -/
def words : List (String × Json) :=
  [("null", null), ("true", bool true), ("false", bool false), ("NaN", real .nan),
    ("Infinity", real (.infinite false)), ("-Infinity", real (.infinite true))]

/-- Reads a value that is written as a word. -/
def readWord? (text : List Char) : Option (Json × List Char) :=
  words.findSome? fun (word, value) =>
    if word.toList.isPrefixOf text then some (value, text.drop word.length) else none

mutual

/-- Reads one value, which begins at once. -/
def readValue : Nat → List Char → Except Fault (Json × List Char)
  | 0, text => .error ⟨.value, text⟩
  | fuel + 1, text =>
    match text with
    | '"' :: rest => do
      let (content, rest) ← readText text [] rest
      pure (str content, rest)
    | '\x7b' :: rest =>
      match skipGap rest with
      | '\x7d' :: rest => .ok (obj [], rest)
      | rest => readMembers fuel [] rest
    | '[' :: rest =>
      match skipGap rest with
      | ']' :: rest => .ok (arr [], rest)
      | rest => readItems fuel [] rest
    | _ =>
      match readWord? text with
      | some reading => .ok reading
      | none => readNumber text

/-- Reads the members of an object up to its closing brace. -/
def readMembers : Nat → Keyed Json → List Char → Except Fault (Json × List Char)
  | 0, _, text => .error ⟨.key, text⟩
  | fuel + 1, members, text =>
    match text with
    | '"' :: rest => do
      let (key, rest) ← readText text [] rest
      match skipGap rest with
      | ':' :: rest =>
        let (value, rest) ← readValue fuel (skipGap rest)
        let members := Keyed.put key value members
        match skipGap rest with
        | '\x7d' :: rest => .ok (obj members, rest)
        | ',' :: rest => readMembers fuel members (skipGap rest)
        | rest => .error ⟨.comma, rest⟩
      | rest => .error ⟨.colon, rest⟩
    | _ => .error ⟨.key, text⟩

/-- Reads the items of a list up to its closing bracket, the items so far in
    reverse. -/
def readItems : Nat → List Json → List Char → Except Fault (Json × List Char)
  | 0, _, text => .error ⟨.value, text⟩
  | fuel + 1, items, text => do
    let (item, rest) ← readValue fuel text
    match skipGap rest with
    | ']' :: rest => .ok (arr (item :: items).reverse, rest)
    | ',' :: rest => readItems fuel (item :: items) (skipGap rest)
    | rest => .error ⟨.comma, rest⟩

end

/-- The steps that reading a text can take: a list or an object is opened in two,
    and everything else takes no more than its characters. -/
def stepsFor (text : List Char) : Nat :=
  2 * text.length + 2

/-- Reads a text that holds one value and nothing else. -/
def readAll (text : List Char) : Except Fault Json :=
  if text.head? = some (Char.ofNat 0xFEFF) then .error ⟨.byteOrderMark, text⟩
  else do
    let (value, rest) ← readValue (stepsFor text) (skipGap text)
    match skipGap rest with
    | [] => .ok value
    | rest => .error ⟨.extra, rest⟩

/-- A complaint and its position: characters before it, line and column. -/
structure ReadError where
  /-- What is wrong. -/
  complaint : Complaint
  /-- The number of characters before. -/
  offset : Nat
  /-- The line, counted from one. -/
  line : Nat
  /-- The column, counted from one. -/
  column : Nat
  deriving DecidableEq, Repr

/-- Finds out where a fault is. -/
def ReadError.ofFault (text : List Char) (fault : Fault) : ReadError :=
  let before := text.take (text.length - fault.rest.length)
  { complaint := fault.complaint
    offset := before.length
    line := before.count '\n' + 1
    column := (before.reverse.takeWhile (· != '\n')).length + 1 }

/-- Reads a text. -/
def read (text : List Char) : Except ReadError Json :=
  (readAll text).mapError (ReadError.ofFault text)

/-- What is said about a complaint, without the position. -/
def Complaint.text : Complaint → String
  | byteOrderMark => "Unexpected UTF-8 BOM (decode using utf-8-sig)"
  | value => "Expecting value"
  | key => "Expecting property name enclosed in double quotes"
  | colon => "Expecting ':' delimiter"
  | comma => "Expecting ',' delimiter"
  | extra => "Extra data"
  | unterminated => "Unterminated string starting at"
  | control => "Invalid control character at"
  | escape => "Invalid \\escape"
  | numericEscape => "Invalid \\uXXXX escape"
  | longInteger digits =>
    "Exceeds the limit (4300 digits) for integer string conversion: value has " ++
      toString digits ++ " digits; use sys.set_int_max_str_digits() to increase the limit"

/-- What is said about an error. An integer that is too long is reported
    without a position. -/
def ReadError.message (error : ReadError) : String :=
  match error.complaint with
  | .longInteger _ => error.complaint.text
  | complaint =>
    s!"{complaint.text}: line {error.line} column {error.column} (char {error.offset})"

end Json

end Costwise
