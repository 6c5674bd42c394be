import ComponentMarkup.Style.Calculation
import ComponentMarkup.Style.Color

/-!
# Measures

Lengths, percentages, angles, times and numbers, plain or calculated, and the ways in which values
of several sides or directions are abbreviated.

## Main definitions

* `Style.length`, `Style.lengthPercentage`, `Style.angle`, `Style.time`, `Style.plainNumberValue`
* `Style.sides`, `Style.pair` — values for four sides and for two directions
-/

namespace ComponentMarkup.Style

/-- A length; zero needs no unit. -/
def lengthText (value : Float32) (unit : String) : String :=
  if value == 0 then "0" else dimensionText value unit

/-- A single term as a value. -/
def termValue (t : Term) : String :=
  match t with
  | .dimension x unit =>
    if lengthUnits.contains unit then lengthText x unit
    else if unit == "s" then timeText x true
    else if unit == "ms" then timeText x false
    else dimensionText x unit
  | t => t.text

/-- What kinds of terms a value may have. -/
structure Measure where
  numbers : Bool := false
  percentages : Bool := false
  units : List String := []

namespace Measure

/-- Whether a term is of one of the kinds. -/
def allows (m : Measure) : Term → Bool
  | .number _ => m.numbers
  | .percentage _ => m.percentages
  | .dimension _ unit => m.units.contains unit
  | .function .. => true

/-- Reads a plain value of one of the kinds. -/
def plain (m : Measure) : Reader String := do
  let t ← term
  if m.allows t then pure (termValue t) else failure

/-- Reads a calculated value of one of the kinds. -/
def calculated (m : Measure) : Reader String := do
  let (s, isCalc) ← calculation
  if !s.all m.allows then failure
  else match s with
    | [.function x text] => pure (calculationText [.function x text] isCalc)
    | [t] => pure (termValue t)
    | s => pure (calculationText s isCalc)

/-- Reads a value of one of the kinds. -/
def read (m : Measure) : Reader String := m.plain <|> m.calculated

end Measure

/-- The number zero, where a length is expected. -/
def zeroLength : Reader String := do
  let x ← number
  if x == 0 then pure "0" else failure

/-- A length. -/
def length : Reader String := Measure.read { units := lengthUnits } <|> zeroLength

/-- A percentage. -/
def percentageValue : Reader String := Measure.read { percentages := true }

/-- A length or a percentage. -/
def lengthPercentage : Reader String :=
  Measure.read { units := lengthUnits, percentages := true } <|> zeroLength

/-- A number. -/
def plainNumberValue : Reader String := Measure.read { numbers := true }

/-- A number or a percentage. -/
def numberOrPercentage : Reader String := plainNumberValue <|> percentageValue

/-- An angle. -/
def angle : Reader String := Measure.read { units := angleUnits }

/-- An angle; zero needs no unit. -/
def angleOrZero : Reader String := do
  let text ← angle <|> zeroLength
  pure (if text == "0deg" || text == "0turn" || text == "0grad" || text == "0rad" then "0" else text)

/-- A time. -/
def time : Reader String := Measure.read { units := ["s", "ms"] }

/-- An integer. -/
def integerValue : Reader String := (fun i : Int => toString i) <$> integer

/-- The number that a number or a percentage means. -/
def ratioValue : Reader String := plainNumberValue <|> (do
  let x ← percentage
  pure (numberText (x / 100)))

/-- A length, a percentage or one of some words. -/
def lengthOr (words : List String) : Reader String := keyword words <|> lengthPercentage

/-! ### Several values -/

/-- The values of four sides: opposite sides that are equal are written once. -/
def sidesText (top right bottom left : String) : String :=
  if top == bottom && right == left then
    if top == right then top else top ++ " " ++ right
  else if right == left then top ++ " " ++ right ++ " " ++ bottom
  else top ++ " " ++ right ++ " " ++ bottom ++ " " ++ left

/-- The four values that one to four values stand for. -/
def spread? : List String → Option (String × String × String × String)
  | [a] => some (a, a, a, a)
  | [a, b] => some (a, b, a, b)
  | [a, b, c] => some (a, b, c, b)
  | [a, b, c, d] => some (a, b, c, d)
  | _ => none

/-- The text of one to four values for the four sides. -/
def abbreviated? (values : List String) : Option String :=
  (spread? values).map fun (a, b, c, d) => sidesText a b c d

/-- Gives what `f` makes of a value, if it makes something. -/
def emit {α β : Type} (r : Reader α) (f : α → Option β) : Reader β := do
  let a ← r
  match f a with
  | some b => pure b
  | none => failure

/-- One to four values for the four sides. -/
def sides (r : Reader String) : Reader String := emit (some1 r) abbreviated?

/-- One or two values for two directions. -/
def pair (r : Reader String) : Reader String := do
  let a ← r
  let b ← optional r
  pure (match b with
    | some b => if a == b then a else a ++ " " ++ b
    | none => a)

/-- Values with commas between them, as text. -/
def listOf (r : Reader String) : Reader String := (",".intercalate ·) <$> commaList r

/-- Values side by side, as text. -/
def seriesOf (r : Reader String) : Reader String := (" ".intercalate ·) <$> some1 r

/-- The values that there are, with blanks between them; `default` if there are none. -/
def joinSome (default : String) (values : List (Option String)) : String :=
  match values.filterMap id with
  | [] => default
  | texts => " ".intercalate texts

/-- A value unless it is the initial one. -/
def unlessInitial (initial : String) (value : Option String) : Option String :=
  value.bind fun v => if v == initial then none else some v

/-- Values in any order, each of its own kind; initial values are left out, and `default` stands for
all of them. -/
def shorthand (default : String) (kinds : List (Reader String × String)) : Reader String := do
  let found ← anyOrder (kinds.map Prod.fst)
  pure (joinSome default ((found.zip (kinds.map Prod.snd)).map fun (v, i) => unlessInitial i v))

end ComponentMarkup.Style
