import ComponentMarkup.Style.Reader

/-!
# Calculations

Sums, products and comparisons of numbers with units. Terms of like units are added up as they are
read, and comparisons are decided as far as units allow.

## Main definitions

* `Style.Term` — a summand: a number with its unit, or a function that stays
* `Style.calculation` — reads a calculation
* `Style.calculationText` — its shortest text
-/

namespace ComponentMarkup.Style

/-- A summand. -/
inductive Term
  | number (value : Float32)
  | percentage (value : Float32)
  | dimension (value : Float32) (unit : String)
  /-- A function that cannot be worked out, with a factor. -/
  | function (factor : Float32) (text : String)

namespace Term

/-- The term times a factor. -/
def scale (x : Float32) : Term → Term
  | number y => number (y * x)
  | percentage y => percentage (y * x)
  | dimension y unit => dimension (y * x) unit
  | function y text => function (y * x) text

/-- The factor of the term. -/
def size : Term → Float32
  | number x => x
  | percentage x => x
  | dimension x _ => x
  | function x _ => x

/-- How many pixels an absolute unit has. -/
def pixels? (unit : String) : Option Float32 :=
  match unit with
  | "px" => some 1
  | "in" => some 96
  | "cm" => some (96 / 2.54)
  | "mm" => some (96 / 25.4)
  | "q" => some (96 / 101.6)
  | "pt" => some (96 / 72)
  | "pc" => some 16
  | _ => none

/-- Two terms in the same unit, if they can be brought to one: their sizes, and the term of a
size. -/
def common? : Term → Term → Option (Float32 × Float32 × (Float32 → Term))
  | number x, number y => some (x, y, number)
  | percentage x, percentage y => some (x, y, percentage)
  | dimension x u, dimension y v =>
    if u == v then some (x, y, fun z => dimension z u)
    else match pixels? u, pixels? v with
      | some a, some b => some (x * a, y * b, fun z => dimension z "px")
      | _, _ => none
  | _, _ => none

/-- The term with its unit. -/
def text : Term → String
  | number x => numberText x
  | percentage x => percentageText x
  | dimension x unit => dimensionText x unit
  | function x text =>
    if x == 1 then text
    else if x.abs < 1 then text ++ "/" ++ numberText (1 / x)
    else numberText x ++ "*" ++ text

end Term

/-! ### Sums -/

/-- Adds a term to a sum: to the first term of its unit, else at the end. -/
def addTerm (t : Term) : List Term → List Term
  | [] => [t]
  | u :: rest =>
    match u.common? t with
    | some (x, y, make) => make (x + y) :: rest
    | none => u :: addTerm t rest

/-- The text of a sum. -/
def sumText : List Term → String
  | [] => ""
  | t :: rest => t.text ++ String.join (rest.map fun u =>
      if u.size < 0 then " - " ++ (u.scale (-1)).text else " + " ++ u.text)

/-- A function with arguments. -/
def callText (name : String) (arguments : List (List Term)) : String :=
  name ++ "(" ++ ",".intercalate (arguments.map sumText) ++ ")"

/-! ### Comparisons -/

/-- Compares two sums of one term of like units. -/
def compare? : List Term → List Term → Option Ordering
  | [t], [u] => (t.common? u).map fun (x, y, _) =>
      if x < y then .lt else if y < x then .gt else .eq
  | _, _ => none

/-- Adds an argument of `min` or `max` to those kept: in place of one that it beats, or not at all if
one beats it. -/
def keepBest (wanted : Ordering) (s : List Term) : List (List Term) → List (List Term)
  | [] => [s]
  | k :: rest =>
    match compare? s k with
    | some o => if o == wanted then s :: rest else k :: rest
    | none => k :: keepBest wanted s rest

/-- The result of `min` or `max`. -/
def bestOf (name : String) (wanted : Ordering) (arguments : List (List Term)) : List Term :=
  match arguments.foldl (fun kept s => keepBest wanted s kept) [] with
  | [s] => s
  | kept => [.function 1 (callText name kept)]

/-- The result of `clamp`. -/
def clampOf (low center high : List Term) : List Term :=
  let (center, high) := match compare? center high with
    | some .gt => (high, none)
    | some _ => (center, none)
    | none => (center, some high)
  let (center, low) := match compare? low center with
    | some .gt => (low, none)
    | some _ => (center, none)
    | none => (center, some low)
  match low, high with
  | none, none => center
  | some low, none => [.function 1 (callText "max" [low, center])]
  | none, some high => [.function 1 (callText "min" [center, high])]
  | some low, some high => [.function 1 (callText "clamp" [low, center, high])]

/-! ### Reading -/

/-- A number with its unit, if the unit is known. -/
def term : Reader Term :=
  (.number <$> number) <|> (.percentage <$> percentage) <|>
    ((fun (x, unit) => .dimension x unit) <$> dimension (lengthUnits ++ angleUnits ++ ["s", "ms"]))

/-- The value of a sum that is a number. -/
def asNumber? : List Term → Option Float32
  | [.number x] => some x
  | _ => none

/-- The product of two sums, one of them a number. -/
def product? (s t : List Term) : Option (List Term) :=
  match asNumber? s, asNumber? t with
  | some x, _ => some (t.map (Term.scale x))
  | none, some y => some (s.map (Term.scale y))
  | none, none => none

/-- Folds what follows a value: separators with further values. -/
def followedBy {α : Type} (step : α → Reader α) (start : α) : Nat → Reader α
  | 0 => pure start
  | count + 1 => (do
      let next ← step start
      followedBy step next count) <|> pure start

mutual

/-- A sum in which brackets nest to a depth. -/
def sumWithin : Nat → Reader (List Term)
  | 0 => failure
  | depth + 1 => fun parts => (do
      let first ← productWithin depth
      followedBy (fun s => (do
          delim '+'
          let t ← productWithin depth
          pure (t.foldl (fun s u => addTerm u s) s)) <|> (do
          delim '-'
          let t ← productWithin depth
          pure (t.foldl (fun s u => addTerm (Term.scale (-1) u) s) s))) first parts.length).run parts
termination_by depth => 4 * depth

/-- A product in which brackets nest to a depth. -/
def productWithin (depth : Nat) : Reader (List Term) := fun parts => (do
    let first ← valueWithin depth
    followedBy (fun s => (do
        delim '*'
        let t ← valueWithin depth
        match product? s t with
        | some r => pure r
        | none => failure) <|> (do
        delim '/'
        let t ← valueWithin depth
        match asNumber? t with
        | some x => if x == 0 then failure else pure (s.map (Term.scale (1 / x)))
        | none => failure)) first parts.length).run parts
termination_by 4 * depth + 3

/-- A value in which brackets nest to a depth. -/
def valueWithin (depth : Nat) : Reader (List Term) :=
  inParens (sumWithin depth) <|> functionWithin depth <|> ((fun t => [t]) <$> term)
termination_by 4 * depth + 2

/-- A function in which brackets nest to a depth. -/
def functionWithin (depth : Nat) : Reader (List Term) :=
  anyFunction fun name => match name with
    | "calc" => sumWithin depth
    | "min" => bestOf name .lt <$> commaList (sumWithin depth)
    | "max" => bestOf name .gt <$> commaList (sumWithin depth)
    | "clamp" => do
      let low ← sumWithin depth
      comma
      let center ← sumWithin depth
      comma
      let high ← sumWithin depth
      pure (clampOf low center high)
    | _ => failure
termination_by 4 * depth + 1

end

/-- The depth to which brackets may nest in a calculation. -/
def calculationDepth : Nat := 64

/-- A calculation, and whether it is one of `calc`. -/
def calculation : Reader (List Term × Bool) := fun parts =>
  let isCalc := match parts with
    | .block (.function name) _ _ _ :: _ => lower name == "calc"
    | _ => false
  ((fun s => (s, isCalc)) <$> functionWithin calculationDepth).run parts

/-- The text of a calculation that is no single value. -/
def calculationText (s : List Term) (isCalc : Bool) : String :=
  match s with
  | [.function factor text] => if factor == 1 && !isCalc then text else "calc(" ++ sumText s ++ ")"
  | s => "calc(" ++ sumText s ++ ")"

end ComponentMarkup.Style
