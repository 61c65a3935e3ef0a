import Costwise.Text.Blank
import Costwise.Text.Cells
import Costwise.Text.Lines

/-!
# Wrapping Text

Text that is shown has to fit a number of columns. A line is cut into chunks, a
word with the blanks after it, and filled with chunks as long as the next word
fits. A word that fits no line is cut wherever the line ends. Characters that
would move the cursor are dropped first, and tabs become blanks.

## Main definitions

* `Line`: One line on the screen.
* `chunks`: A line cut before each word.
* `fill`: Chunks put on lines.
* `wrap`: A text on lines of a width.
-/

namespace Costwise

namespace Screen

open Text

/-- One line on the screen. -/
abbrev Line := List Char

/-- Characters that move the cursor or ring a bell. -/
def movesCursor (c : Char) : Bool :=
  c.toNat == 7 || c.toNat == 8 || c.toNat == 11 || c.toNat == 12 || c.toNat == 13

/-- The columns from one tab stop to the next. -/
def tabStop : Nat := 8

/-- Replaces tabs by blanks up to the next tab stop, from a column on. -/
def expandTabs (column : Nat) : Line → Line
  | [] => []
  | c :: rest =>
    if c = '\t' then
      let blanks := tabStop - column % tabStop
      List.replicate blanks ' ' ++ expandTabs (column + blanks) rest
    else c :: expandTabs (column + cells c) rest

/-- Puts a character in front of a line that is cut into chunks. A new chunk begins
    where a word follows a blank. -/
def consChunk (c : Char) : List Line → List Line
  | [] => [[c]]
  | chunk :: others =>
    if isBlank c && !chunk.head?.any isBlank then [c] :: chunk :: others
    else (c :: chunk) :: others

/-- Blanks in front of the first word belong to its chunk. -/
def joinLead : List Line → List Line
  | blanks :: chunk :: others =>
    if blanks.all isBlank then (blanks ++ chunk) :: others else blanks :: chunk :: others
  | cut => cut

/-- Cuts a line before each word but the first. -/
def chunks (line : Line) : List Line :=
  joinLead (line.foldr consChunk [])

/-- The columns of a chunk without the blanks after its word. -/
def wordWidth (chunk : Line) : Nat :=
  width (trimEnd chunk)

/-- Puts a character in front of the first of several pieces. -/
def consPiece (c : Char) : List Line → List Line
  | [] => [[c]]
  | piece :: pieces => (c :: piece) :: pieces

/-- Cuts a text wherever so many columns are full, from a column on. -/
def chop (limit column : Nat) : Line → List Line
  | [] => [[]]
  | c :: rest =>
    if limit < column + cells c then [] :: consPiece c (chop limit (cells c) rest)
    else consPiece c (chop limit (column + cells c) rest)

/-- Puts chunks on lines. `current` is the line that is being filled, up to `column`. -/
def fill (limit column : Nat) (current : Line) : List Line → List Line
  | [] => [current]
  | chunk :: rest =>
    if wordWidth chunk ≤ limit - column then
      fill limit (column + width chunk) (current ++ chunk) rest
    else if wordWidth chunk ≤ limit then current :: fill limit (width chunk) chunk rest
    else
      let pieces := chop limit 0 chunk
      let last := pieces.getLastD []
      let full := if current.isEmpty then pieces.dropLast else current :: pieces.dropLast
      full ++ fill limit (width last) last rest

/-- The front of a line that fits into so many columns. -/
def crop (limit : Nat) : Line → Line
  | [] => []
  | c :: rest => if limit < cells c then [] else c :: crop (limit - cells c) rest

/-- Puts one line of a text on lines of a width. What sticks out at the end of a
    line can only be blanks. -/
def wrapLine (limit : Nat) (line : Line) : List Line :=
  (fill limit 0 [] (chunks (expandTabs 0 line))).map (crop limit)

/-- A text without the characters that move the cursor. -/
def steady (text : List Char) : List Char :=
  text.filter (!movesCursor ·)

/-- Puts a text on lines of a width. -/
def wrap (limit : Nat) (text : List Char) : List Line :=
  (splitLines (steady text)).flatMap (wrapLine limit)

/-- The lines of a text where there is no limit to their width. -/
def unwrapped (text : List Char) : List Line :=
  (splitLines (steady text)).map (expandTabs 0)

/-- Fills a line with blanks up to a width. -/
def padRight (limit : Nat) (line : Line) : Line :=
  line ++ List.replicate (limit - width line) ' '

/-- A line with blanks before it up to a width. -/
def padLeft (limit : Nat) (line : Line) : Line :=
  List.replicate (limit - width line) ' ' ++ line

/-- A line in the middle of a width, the smaller half of a character before it. -/
def center (fill : Char) (limit : Nat) (line : Line) : Line :=
  let room := limit - width line
  List.replicate (room / 2) fill ++ line ++ List.replicate (room - room / 2) fill

end Screen

end Costwise
