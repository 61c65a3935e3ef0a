import Costwise.Screen.Wrap

/-!
# Drawings

What is drawn on the screen, as a function of the columns there are: text,
panels with a border, tables, outlines and rules. Everything is plain
characters.

## Main definitions

* `Drawing`: Lines for a width.
* `text`, `stack`, `blank`, `rule`: The simple drawings.
* `panel`: A drawing with a border around it.
* `Table`, `Table.draw`: Rows and columns.
* `Outline`, `Outline.draw`: Nested entries.
-/

namespace Costwise

namespace Screen

/-- What is drawn when there are so many columns. -/
abbrev Drawing := Nat → List Line

/-- A text, wrapped. -/
def text (content : String) : Drawing :=
  fun limit => wrap limit content.toList

/-- Drawings below each other. -/
def stack (drawings : List Drawing) : Drawing :=
  fun limit => drawings.flatMap (· limit)

/-- An empty line. -/
def blank : Drawing :=
  fun _ => [[]]

/-- A line across the screen. -/
def rule : Drawing :=
  fun limit => [List.replicate limit '─']

/-- The space between a border and what is inside: lines above and below, columns
    at the sides. -/
structure Padding where
  /-- Lines above and below. -/
  vertical : Nat
  /-- Columns at each side. -/
  horizontal : Nat

/-- Much space around. -/
def Padding.wide : Padding := ⟨1, 2⟩

/-- Little space around. -/
def Padding.narrow : Padding := ⟨0, 1⟩

/-- The upper border of a panel, with as much of the title in its middle as fits. -/
def upperBorder (title : Option String) (limit : Nat) : Line :=
  match title with
  | none => '╭' :: List.replicate (limit - 2) '─' ++ ['╮']
  | some title =>
    let shown := crop (limit - 4) (' ' :: title.toList ++ [' '])
    '╭' :: '─' :: center '─' (limit - 4) shown ++ ['─', '╮']

/-- A drawing with a border around it, as wide as the screen. -/
def panel (title : Option String) (padding : Padding) (content : Drawing) : Drawing :=
  fun limit =>
    let inner := limit - 2 - 2 * padding.horizontal
    let side := List.replicate padding.horizontal ' '
    let row (line : Line) : Line := '│' :: side ++ padRight inner line ++ side ++ ['│']
    let space := List.replicate padding.vertical (row [])
    upperBorder title limit :: space ++ (content inner).map row ++ space ++
      ['╰' :: List.replicate (limit - 2) '─' ++ ['╯']]

/-- Where a text stands in its column. -/
inductive Side where
  /-- At the left. -/
  | left
  /-- At the right. -/
  | right
  /-- In the middle. -/
  | middle
  deriving DecidableEq, Repr

/-- A text in its column. Blanks at its end do not count, unless it stands at the left. -/
def Side.place (side : Side) (limit : Nat) (line : Line) : Line :=
  match side with
  | left => padRight limit line
  | right => padLeft limit (Text.trimEnd line)
  | middle => center ' ' limit (Text.trimEnd line)

/-- A table: a title, columns with their headings, and rows of cells. -/
structure Table where
  /-- The title. -/
  title : String
  /-- The heading of each column, and where its texts stand. -/
  columns : List (String × Side)
  /-- The cells, row by row. -/
  rows : List (List String)

namespace Table

/-- The lines of a cell. -/
def cellLines (cell : String) : List Line :=
  Text.splitLines (steady cell.toList)

/-- The columns of the screen that a cell takes. -/
def cellWidth (cell : String) : Nat :=
  ((cellLines cell).map Text.width).foldl max 0

/-- The width of each column: that of its widest cell. -/
def widths (table : Table) : List Nat :=
  table.columns.mapIdx fun index (heading, _) =>
    (table.rows.map fun row => cellWidth (row.getD index "")).foldl max (cellWidth heading)

/-- A border of a table: an end, strokes for each column, joints between them, an end. -/
def border (left joint right : Char) (widths : List Nat) : Line :=
  left :: [joint].intercalate (widths.map fun width => List.replicate (width + 2) '─') ++ [right]

/-- The lines of a row. A row is as high as its highest cell. -/
def rowLines (sides : List Side) (widths : List Nat) (row : List String) : List Line :=
  let cells := row.map cellLines
  let height := (cells.map List.length).foldl max 1
  (List.range height).map fun index =>
    let parts := (cells.zip (sides.zip widths)).map fun (lines, side, width) =>
      ' ' :: side.place width (lines.getD index []) ++ [' ']
    '│' :: ['│'].intercalate parts ++ ['│']

/-- Draws a table. Its title stands above it in the middle. -/
def draw (table : Table) : Drawing :=
  fun _ =>
    let widths := table.widths
    let sides := table.columns.map (·.2)
    let total := widths.foldl (fun total width => total + width + 3) 1
    (wrap total table.title.toList).map (Side.middle.place total) ++
      [border '╭' '┬' '╮' widths] ++
      rowLines sides widths (table.columns.map (·.1)) ++
      [border '├' '┼' '┤' widths] ++
      table.rows.flatMap (rowLines sides widths) ++
      [border '╰' '┴' '╯' widths]

end Table

/-- An entry with the entries below it. -/
structure Outline where
  /-- The entry. -/
  label : String
  /-- The entries below it. -/
  entries : List Outline := []

namespace Outline

/-- Lines with a lead in front, another one for the first line. -/
def led (first rest : Line) : List Line → List Line
  | [] => []
  | line :: lines => (first ++ line) :: lines.map (rest ++ ·)

mutual

/-- Draws an entry and the entries below it. `first` leads its first line, `rest`
    everything after that. -/
def drawEntry (limit : Nat) (first rest : Line) : Outline → List Line
  | ⟨label, entries⟩ =>
    led first rest (wrap (limit - Text.width first) label.toList) ++ drawEntries limit rest entries

/-- Draws entries of one level. The last one ends the line at their left. -/
def drawEntries (limit : Nat) (lead : Line) : List Outline → List Line
  | [] => []
  | entry :: entries =>
    let guides := if entries.isEmpty then ("└── ", "    ") else ("├── ", "│   ")
    drawEntry limit (lead ++ guides.1.toList) (lead ++ guides.2.toList) entry ++
      drawEntries limit lead entries

end

/-- Draws an outline. -/
def draw (outline : Outline) : Drawing :=
  fun limit => drawEntry limit [] [] outline

end Outline

end Screen

end Costwise
