import ComponentMarkup.Style.Value.Box

/-!
# Motion

Values for transitions, animations, transforms and filters.

## Main definitions

* `Style.easing` — how a change goes in time
* `Style.transition`, `Style.animation`
* `Style.transform` — a list of transforms
* `Style.filter` — a list of filters
-/

namespace ComponentMarkup.Style

/-! ### Easing -/

/-- Words for ways in which a change goes. -/
def easingWords : List String :=
  ["linear", "ease", "ease-in", "ease-out", "ease-in-out", "step-start", "step-end"]

/-- The text of a curve; the curves that have names are called by them. -/
def curveText (points : List String) : String :=
  match points with
  | [".25", ".1", ".25", "1"] => "ease"
  | [".42", "0", "1", "1"] => "ease-in"
  | ["0", "0", ".58", "1"] => "ease-out"
  | [".42", "0", ".58", "1"] => "ease-in-out"
  | points => "cubic-bezier(" ++ ",".intercalate points ++ ")"

/-- The text of steps. -/
def stepsText (count at' : String) : String :=
  let place := if at' == "jump-end" then "end" else if at' == "jump-start" then "start" else at'
  if count == "1" && place == "start" then "step-start"
  else if count == "1" && place == "end" then "step-end"
  else if place == "end" then "steps(" ++ count ++ ")"
  else "steps(" ++ count ++ "," ++ place ++ ")"

/-- How a change goes in time. -/
def easing : Reader String :=
  keyword easingWords <|>
  function "cubic-bezier" (do
    let points ← commaList plainNumberValue
    if points.length == 4 then pure (curveText points) else failure) <|>
  function "steps" (do
    let count ← integerValue
    let place ← optional (do
      comma
      keyword ["start", "end", "jump-start", "jump-end", "jump-none", "jump-both"])
    pure (stepsText count (place.getD "end")))

/-! ### Transitions and animations -/

/-- A transition: the property, its duration, how it goes, and a delay. -/
def transitionItem : Reader String := do
  let found ← anyOrder [time, easing, time, identText <$> ident]
  match found with
  | [duration, course, delay, property] =>
    let delay := unlessInitial "0s" delay
    let duration := match unlessInitial "0s" duration, delay with
      | some d, _ => some d
      | none, some _ => some "0s"
      | none, none => none
    pure (joinSome "" [some (property.getD "all"), duration, unlessInitial "ease" course, delay])
  | _ => failure

/-- A list of transitions. -/
def transition : Reader String := listOf transitionItem

/-- Words for the directions of an animation. -/
def directionWords : List String := ["normal", "reverse", "alternate", "alternate-reverse"]

/-- Words for what an animation leaves. -/
def fillWords : List String := ["none", "forwards", "backwards", "both"]

/-- Words for whether an animation runs. -/
def playWords : List String := ["running", "paused"]

/-- The name of an animation. -/
def animationName : Reader String :=
  (fun _ => "none") <$> word "none" <|> customIdent <|> (fun s =>
    if s == "none" || isWide s then stringText s else identText s) <$> string

/-- How often an animation runs. -/
def iterationCount : Reader String := word "infinite" <|> plainNumberValue

/-- An animation. -/
def animationItem : Reader String := do
  let found ← anyOrder [time, easing, time, iterationCount, keyword directionWords,
    keyword fillWords, keyword playWords, animationName]
  match found with
  | [duration, course, delay, count, direction, fill, play, name] =>
    let name := name.getD "none"
    if name == "none" then pure "none"
    else
      let delay := unlessInitial "0s" delay
      let duration := match unlessInitial "0s" duration, delay with
        | some d, _ => some d
        | none, some _ => some "0s"
        | none, none => none
      let shown (initial : String) (words : List String) (value : Option String) :=
        if words.contains name then some (value.getD initial) else unlessInitial initial value
      pure (joinSome "" [duration, shown "ease" easingWords course, delay,
        shown "1" ["infinite"] count, shown "normal" directionWords direction,
        shown "none" (fillWords.drop 1) fill, shown "running" playWords play, some name])
  | _ => failure

/-- A list of animations. -/
def animation : Reader String := listOf animationItem

/-! ### Transforms -/

/-- A function with its arguments. -/
def call (name : String) (arguments : List String) : String :=
  name ++ "(" ++ ",".intercalate arguments ++ ")"

/-- Arguments with commas between them, as many as `rs` has readers; those from `least` on may be
missing. -/
def arguments (least : Nat) : List (Reader String) → Reader (List String)
  | [] => pure []
  | r :: rs => do
    let a ← r
    let more ← (do
      match rs with
      | [] => failure
      | _ => comma
      arguments (least - 1) rs) <|> (if least ≤ 1 then pure [] else failure)
    pure (a :: more)

/-- A movement along two directions. -/
def translateText (x y : String) : String :=
  if x == "0" && y != "0" then call "translateY" [y]
  else if y == "0" then call "translate" [x]
  else call "translate" [x, y]

/-- A movement along three directions. -/
def translate3dText (x y z : String) : String :=
  if x == "0" && y == "0" && z != "0" then call "translateZ" [z]
  else if z == "0" then if x == "0" && y == "0" then call "translate" [x, y] else translateText x y
  else call "translate3d" [x, y, z]

/-- A change of size along two directions. -/
def scaleText (x y : String) : String :=
  if x == "1" && y != "1" then call "scaleY" [y]
  else if x != "1" && y == "1" then call "scaleX" [x]
  else if x == y then call "scale" [x]
  else call "scale" [x, y]

/-- A change of size along three directions. -/
def scale3dText (x y z : String) : String :=
  if z == "1" then scaleText x y
  else if x == "1" && y == "1" then call "scaleZ" [z]
  else call "scale3d" [x, y, z]

/-- A slant along two directions. -/
def skewText (x y : String) : String :=
  if x == "0" && y != "0" then call "skewY" [y]
  else if y == "0" then call "skew" [x]
  else call "skew" [x, y]

/-- A turn around an axis. -/
def rotate3dText (x y z a : String) : String :=
  match x, y, z with
  | "1", "0", "0" => call "rotateX" [a]
  | "0", "1", "0" => call "rotateY" [a]
  | "0", "0", "1" => call "rotate" [a]
  | x, y, z => call "rotate3d" [x, y, z, a]

/-- A transform. -/
def transformItem : Reader String :=
  anyFunction fun name =>
    let lp := lengthPercentage
    let n := plainNumberValue
    let apply (least : Nat) (rs : List (Reader String)) (f : List String → Option String) :=
      emit (arguments least rs) f
    match name with
    | "translate" => apply 1 [lp, lp] fun a => match a with
      | [x] => some (translateText x "0")
      | [x, y] => some (translateText x y)
      | _ => none
    | "translatex" => apply 1 [lp] fun a => some (call "translate" a)
    | "translatey" => apply 1 [lp] fun a => some (call "translateY" a)
    | "translatez" => apply 1 [length] fun a => some (call "translateZ" a)
    | "translate3d" => apply 3 [lp, lp, length] fun a => match a with
      | [x, y, z] => some (translate3dText x y z)
      | _ => none
    | "scale" => apply 1 [ratioValue, ratioValue] fun a => match a with
      | [x] => some (scaleText x x)
      | [x, y] => some (scaleText x y)
      | _ => none
    | "scalex" => apply 1 [ratioValue] fun a => some (call "scaleX" a)
    | "scaley" => apply 1 [ratioValue] fun a => some (call "scaleY" a)
    | "scalez" => apply 1 [ratioValue] fun a => some (call "scaleZ" a)
    | "scale3d" => apply 3 [ratioValue, ratioValue, ratioValue] fun a => match a with
      | [x, y, z] => some (scale3dText x y z)
      | _ => none
    | "rotate" => apply 1 [angleOrZero] fun a => some (call "rotate" a)
    | "rotatex" => apply 1 [angleOrZero] fun a => some (call "rotateX" a)
    | "rotatey" => apply 1 [angleOrZero] fun a => some (call "rotateY" a)
    | "rotatez" => apply 1 [angleOrZero] fun a => some (call "rotate" a)
    | "rotate3d" => apply 4 [n, n, n, angleOrZero] fun a => match a with
      | [x, y, z, t] => some (rotate3dText x y z t)
      | _ => none
    | "skew" => apply 1 [angleOrZero, angleOrZero] fun a => match a with
      | [x] => some (skewText x "0")
      | [x, y] => some (skewText x y)
      | _ => none
    | "skewx" => apply 1 [angleOrZero] fun a => some (call "skew" a)
    | "skewy" => apply 1 [angleOrZero] fun a => some (call "skewY" a)
    | "perspective" => apply 1 [length] fun a => some (call "perspective" a)
    | "matrix" => apply 6 (List.replicate 6 n) fun a => some (call "matrix" a)
    | "matrix3d" => apply 16 (List.replicate 16 n) fun a => some (call "matrix3d" a)
    | _ => failure

/-- A list of transforms. -/
def transform : Reader String := word "none" <|> String.join <$> some1 transformItem

/-! ### Filters -/

/-- A filter whose amount can be left out. -/
def filterOf (name initial : String) (amount : Reader String) : Reader String := do
  let a ← optional amount
  pure (name ++ "(" ++ (unlessInitial initial a).getD "" ++ ")")

/-- A filter. -/
def filterItem : Reader String :=
  urlText <$> url <|> anyFunction fun name =>
    if name == "blur" then filterOf name "0" length
    else if ["brightness", "contrast", "grayscale", "invert", "opacity", "saturate",
        "sepia"].contains name then filterOf name "1" numberOrPercentage
    else if name == "hue-rotate" then filterOf name "0" angleOrZero
    else if name == "drop-shadow" then (fun shadow => call name [shadow]) <$> shadowOf false
    else failure

/-- A list of filters. -/
def filter : Reader String := word "none" <|> String.join <$> some1 filterItem

end ComponentMarkup.Style
