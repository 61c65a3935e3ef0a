/-!
# Lines

Text is split into lines where it is read, where it is laid out and where a
position is reported. Only the line feed ends a line; the other line ends are
turned into it when a file is read.

## Main definitions

* `splitLines`: The parts between line feeds.
* `unifyLineEnds`: Carriage returns, alone or before a line feed, as line feeds.
-/

namespace Costwise

namespace Text

/-- The parts of a text between line feeds, an empty one for an empty text. -/
def splitLines : List Char → List (List Char)
  | [] => [[]]
  | c :: rest =>
    if c = '\n' then [] :: splitLines rest
    else
      match splitLines rest with
      | [] => [[c]]
      | line :: lines => (c :: line) :: lines

/-- A carriage return and a line feed together end one line, and so does a
    carriage return alone. -/
def unifyLineEnds : List Char → List Char
  | [] => []
  | '\r' :: '\n' :: rest => '\n' :: unifyLineEnds rest
  | '\r' :: rest => '\n' :: unifyLineEnds rest
  | c :: rest => c :: unifyLineEnds rest

end Text

end Costwise
