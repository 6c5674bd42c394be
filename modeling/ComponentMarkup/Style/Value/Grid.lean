import ComponentMarkup.Style.Value.Box
import ComponentMarkup.Style.Value.Motion
import ComponentMarkup.Text.Blank

/-!
# Grids

The tracks of a grid, the areas in it, and the lines between which an item stands.

## Main definitions

* `Style.trackList` — the tracks along one direction, with the names of the lines between them
* `Style.gridAreas` — the areas of a grid, row by row
* `Style.gridLines`, `Style.gridArea` — the place of an item
-/

namespace ComponentMarkup.Style

/-! ### Tracks -/

/-- The size of a track, or a bound of it. -/
def breadth : Reader String :=
  lengthOr ["auto", "min-content", "max-content"] <|> (do
    let (x, unit) ← dimension ["fr"]
    pure (dimensionText x unit))

/-- The size of a track. -/
def trackSize : Reader String :=
  breadth <|> fitContent <|> function "minmax" (do
    let least ← breadth
    comma
    let most ← breadth
    pure (call "minmax" [least, most]))

/-- The names of a line, in square brackets. -/
def lineNames : Reader String :=
  inside (· == .square) ((fun names => "[" ++ " ".intercalate names ++ "]") <$> many customIdent)

/-- A track, or the names of a line; whether it is a track. -/
def trackOrNames (track : Reader String) : Reader (Bool × String) :=
  (Prod.mk true <$> track) <|> (Prod.mk false <$> lineNames)

/-- Tracks with a blank between those that have no names between them. -/
def tracksText : List (Bool × String) → String
  | (true, t) :: (true, u) :: rest => t ++ " " ++ tracksText ((true, u) :: rest)
  | (_, t) :: rest => t ++ tracksText rest
  | [] => ""

/-- Tracks with the names of the lines between them. -/
def tracksOf (track : Reader String) : Reader String := do
  let found ← some1 (trackOrNames track)
  if found.any Prod.fst then pure (tracksText found) else failure

/-- A track, or tracks that come several times. -/
def track : Reader String :=
  trackSize <|> function "repeat" (do
    let count ← integerValue <|> keyword ["auto-fill", "auto-fit"]
    comma
    let tracks ← tracksOf trackSize
    pure (call "repeat" [count, tracks]))

/-- The tracks along one direction. -/
def trackList : Reader String := word "none" <|> tracksOf track

/-- The sizes of tracks that are not given. -/
def trackSizes : Reader String := seriesOf trackSize

/-! ### Areas -/

/-- The cells of a row: names of areas, and nothing for a cell of no area. -/
def cellsOf (row : List Char) : List (Option String) :=
  let step (c : Char) (cells : List (Option String) × List Char) :
      List (Option String) × List Char :=
    let flush := if cells.2.isEmpty then cells.1 else some (String.ofList cells.2) :: cells.1
    if isAsciiBlank c then (flush, [])
    else if c == '.' then (none :: flush, [])
    else (cells.1, c :: cells.2)
  let whole := (row.foldr step ([], []))
  if whole.2.isEmpty then whole.1 else some (String.ofList whole.2) :: whole.1

/-- A row as text: a blank stands between two names and between two cells of no area. -/
def cellsText : List (Option String) → String
  | [] => ""
  | [cell] => (cell.map identText).getD "."
  | cell :: next :: rest =>
    (cell.map identText).getD "." ++ (if cell.isSome == next.isSome then " " else "") ++
      cellsText (next :: rest)

/-- The areas of a grid. All rows have as many cells. -/
def gridAreas : Reader String :=
  word "none" <|> (do
    let rows ← some1 string
    let cells := rows.map fun row => cellsOf row.toList
    let count := (cells.head?.map List.length).getD 0
    if count == 0 || cells.any (·.length != count) then failure
    pure (String.join (cells.map fun row => "\"" ++ cellsText row ++ "\"")))

/-! ### Places -/

/-- A line of a grid. -/
inductive GridLine
  | auto
  | area (name : String)
  | line (text : String)
  deriving DecidableEq

namespace GridLine

/-- A line as it is written. -/
def text : GridLine → String
  | auto => "auto"
  | area name => name
  | line text => text

/-- The line at the end of an item when none is given. -/
def ending : GridLine → GridLine
  | area name => area name
  | _ => auto

end GridLine

/-- A number and a name in any order, the number and the name each perhaps missing. -/
def indexAndName : Reader (Option Int × Option String) :=
  (do
    let i ← integer
    pure (some i, ← optional customIdent)) <|> (do
    let name ← customIdent
    pure (← optional integer, some name))

/-- A line of a grid. -/
def gridLine : Reader GridLine :=
  (fun _ => .auto) <$> word "auto" <|> (do
    let _ ← word "span"
    let (index, name) ← indexAndName
    let index := index.getD 1
    let shown := if index != 1 || name.isNone then [toString index] else []
    pure (.line (" ".intercalate ("span" :: shown ++ name.toList)))) <|> (do
    match ← indexAndName with
    | (some i, name) => pure (.line (" ".intercalate (toString i :: name.toList)))
    | (none, some name) => pure (.area name)
    | (none, none) => failure)

/-- A line after a slash; the line at the end of `start` if there is none. -/
def lineAfter (start : GridLine) : Reader GridLine :=
  (do
    delim '/'
    gridLine) <|> pure start.ending

/-- The lines between which an item stands along one direction. -/
def gridLines : Reader String := do
  let start ← gridLine
  let stop ← lineAfter start
  pure (if stop == start.ending then start.text else start.text ++ "/" ++ stop.text)

/-- The lines between which an item stands: above, on the left, below and on the right. -/
def gridArea : Reader String := do
  let top ← gridLine
  let left ← lineAfter top
  let bottom ← lineAfter top
  let right ← lineAfter left
  let omitsRight := right == left.ending
  let omitsBottom := omitsRight && bottom == top.ending
  let omitsLeft := omitsBottom && left == top.ending
  pure ("/".intercalate ([top.text] ++ (if omitsLeft then [] else [left.text]) ++
    (if omitsBottom then [] else [bottom.text]) ++ if omitsRight then [] else [right.text]))

end ComponentMarkup.Style
