import ComponentMarkup.Style.Value.Measure

/-!
# Images and backgrounds

Values for places, images, gradients, backgrounds and list markers.

## Main definitions

* `Style.position` — a place in a box
* `Style.image` — an address or a gradient
* `Style.background` — the layers of a background
* `Style.listStyle` — the marker of a list item
-/

namespace ComponentMarkup.Style

/-! ### Places -/

/-- A place along one direction: the middle, a length, or a side with a distance from it. -/
inductive Place
  | center
  | length (text : String)
  | side (isFar : Bool) (name : String) (distance : Option String)

namespace Place

/-- The place of a side as a length from the near side. -/
def sideLength (isFar : Bool) : String := if isFar then "100%" else "0"

/-- The place as a length from the near side, if it is one. -/
def length? : Place → Option String
  | center => some "50%"
  | length text => some text
  | side isFar _ none => some (sideLength isFar)
  | side false _ (some d) => some d
  | side true _ (some _) => none

/-- Whether the place has a distance from a side that is not the near one. -/
def needsSide (p : Place) : Bool := p.length?.isNone

/-- The place with its side. -/
def withSide (near : String) : Place → String
  | center => "center"
  | length text => near ++ " " ++ text
  | side _ name none => name
  | side _ name (some d) => name ++ " " ++ d

end Place

/-- The shortest text of a place in a box. -/
def positionText (x y : Place) : String :=
  if x.needsSide || y.needsSide then x.withSide "left" ++ " " ++ y.withSide "top"
  else match x, y with
    | .center, .side _ name none => name
    | x, .center => x.length?.getD ""
    | x, y =>
      if y.length?.getD "" == "50%" then x.length?.getD ""
      else x.length?.getD "" ++ " " ++ y.length?.getD ""

/-- A side with words for the near and the far one. -/
def sideOf (near far : String) : Reader (Bool × String) :=
  (fun name => (name == far, name)) <$> keyword [near, far]

/-- A place along the first direction. -/
def placeAcross : Reader Place :=
  (fun _ => .center) <$> word "center" <|> Place.length <$> lengthPercentage <|>
    (fun (isFar, name) => .side isFar name none) <$> sideOf "left" "right"

/-- A place along the second direction. -/
def placeDown : Reader Place :=
  (fun _ => .center) <$> word "center" <|> Place.length <$> lengthPercentage <|>
    (fun (isFar, name) => .side isFar name none) <$> sideOf "top" "bottom"

/-- A side with a distance, or the middle. -/
def placeFrom (near far : String) : Reader Place :=
  (do
    let (isFar, name) ← sideOf near far
    let distance ← optional lengthPercentage
    pure (.side isFar name distance)) <|> (fun _ => .center) <$> word "center"

/-- A place in a box. -/
def positionPlaces : Reader (Place × Place) :=
  (do
    let x ← placeFrom "left" "right"
    let y ← placeFrom "top" "bottom"
    pure (x, y)) <|>
  (do
    let y ← placeFrom "top" "bottom"
    let x ← placeFrom "left" "right"
    pure (x, y)) <|>
  (do
    let x ← placeAcross
    let y ← placeDown
    pure (x, y)) <|>
  ((fun x => (x, .center)) <$> placeAcross) <|>
  ((fun y => (.center, y)) <$> placeDown)

/-- A place in a box, as text. -/
def position : Reader String := (fun (x, y) => positionText x y) <$> positionPlaces

/-! ### Gradients -/

/-- A stop of a gradient: a color with its places, or a hint between two colors. -/
structure Stop where
  shade : Option String
  places : List String

/-- The text of a stop. -/
def Stop.text (s : Stop) : String := " ".intercalate (s.shade.toList ++ s.places)

/-- A stop of a gradient with places of a kind. -/
def stop (place : Reader String) : Reader Stop :=
  (do
    let shade ← color
    let places ← many place
    if places.length ≤ 2 then pure ⟨some shade, places⟩ else failure) <|>
  ((fun p => ⟨none, [p]⟩) <$> place)

/-- Joins stops of one color with one place each. -/
def joinStops : List Stop → List Stop
  | ⟨some a, [p]⟩ :: ⟨some b, [q]⟩ :: rest =>
    if a == b then ⟨some a, [p, q]⟩ :: joinStops rest
    else ⟨some a, [p]⟩ :: joinStops (⟨some b, [q]⟩ :: rest)
  | s :: rest => s :: joinStops rest
  | [] => []

/-- The text of stops; a hint in the middle says nothing. -/
def stopsText (stops : List Stop) : String :=
  let told := stops.filter fun s => !(s.shade.isNone && s.places == ["50%"])
  ",".intercalate ((joinStops told).map Stop.text)

/-- Stops with commas between them, two at least. -/
def stops (place : Reader String) : Reader (List Stop) := do
  let found ← commaList (stop place)
  if found.length < 2 then failure else pure found

/-- The direction of a linear gradient: an angle, or none for the usual one. -/
def direction : Reader String :=
  angleOrZero <|> (do
    let _ ← word "to"
    let found ← anyOrder [keyword ["left", "right"], keyword ["top", "bottom"]]
    match found with
    | [some x, none] => pure (if x == "left" then "270deg" else "90deg")
    | [none, some y] => pure (if y == "top" then "0deg" else "180deg")
    | [some x, some y] => pure ("to " ++ y ++ " " ++ x)
    | _ => failure)

/-- The arguments of a linear gradient. -/
def linearArguments : Reader String := do
  let toward ← optional (do
    let d ← direction
    comma
    pure d)
  let found ← stops lengthPercentage
  atEnd
  let start := match toward with
    | none => ""
    | some "180deg" => ""
    | some "0" => "0deg,"
    | some d => d ++ ","
  pure (start ++ stopsText found)

/-- The arguments of a radial gradient. -/
def radialArguments : Reader String := do
  let shape ← optional (do
    let size ← anyOrder [keyword ["circle", "ellipse"],
      keyword ["closest-side", "farthest-side", "closest-corner", "farthest-corner"],
      seriesOf lengthPercentage]
    let place ← optional (do
      let _ ← word "at"
      position)
    comma
    pure (size, place))
  let place ← match shape with
    | some _ => pure none
    | none => optional (do
      let _ ← word "at"
      let p ← position
      comma
      pure p)
  let found ← stops lengthPercentage
  atEnd
  let sizeText := match shape with
    | some ([kind, extent, lengths], _) =>
      joinSome "" [unlessInitial "ellipse" (if lengths.isSome then none else kind),
        unlessInitial "farthest-corner" extent, lengths]
    | _ => ""
  let placeText := match shape.bind Prod.snd <|> place with
    | some p => if p == "50%" then "" else "at " ++ p
    | none => ""
  let start := joinSome "" ([sizeText, placeText].map fun t => if t == "" then none else some t)
  pure ((if start == "" then "" else start ++ ",") ++ stopsText found)

/-- A gradient. -/
def gradient : Reader String :=
  anyFunction fun name => do
    let text ← match name with
      | "linear-gradient" => linearArguments
      | "repeating-linear-gradient" => linearArguments
      | "radial-gradient" => radialArguments
      | "repeating-radial-gradient" => radialArguments
      | _ => failure
    pure (name ++ "(" ++ text ++ ")")

/-- An image. -/
def image : Reader String := word "none" <|> urlText <$> url <|> gradient

/-! ### Backgrounds -/

/-- How often an image is repeated in each direction. -/
def repetition : Reader String :=
  (fun w => w) <$> keyword ["repeat-x", "repeat-y"] <|>
  (do
    let text ← pair (keyword ["repeat", "space", "round", "no-repeat"])
    pure (match text with
      | "repeat no-repeat" => "repeat-x"
      | "no-repeat repeat" => "repeat-y"
      | text => text))

/-- The size of an image. -/
def imageSize : Reader String :=
  keyword ["cover", "contain"] <|> (do
    let width ← lengthOr ["auto"]
    let height ← optional (lengthOr ["auto"])
    pure (match height with
      | some h => if h == "auto" then width else width ++ " " ++ h
      | none => width))

/-- The box that a background starts from. -/
def boxName : Reader String := keyword ["border-box", "padding-box", "content-box"]

/-- A layer of a background. -/
def backgroundLayer : Reader String := do
  let found ← anyOrder [
    color,
    do
      let place ← position
      let size ← optional (do
        delim '/'
        imageSize)
      pure (match size with
        | some s => if s == "auto" then place else place ++ "/" ++ s
        | none => place),
    image,
    repetition,
    keyword ["scroll", "fixed", "local"],
    boxName,
    keyword ["border-box", "padding-box", "content-box", "text"]]
  match found with
  | [shade, place, picture, often, attachment, origin, clip] =>
    let clip := match clip with
      | some c => some c
      | none => origin
    let showsOrigin := (unlessInitial "padding-box" origin).isSome ||
      ["padding-box", "content-box"].contains (clip.getD "border-box")
    let origin := origin.getD "padding-box"
    let clip := clip.getD "border-box"
    pure (joinSome "0 0" [unlessInitial "#0000" shade, unlessInitial "none" picture,
      unlessInitial "0 0" place, unlessInitial "repeat" often, unlessInitial "scroll" attachment,
      if showsOrigin then some origin else none,
      if (showsOrigin && clip != origin) || (!showsOrigin && clip != "border-box") then some clip
        else none])
  | _ => failure

/-- A background. -/
def background : Reader String := listOf backgroundLayer

/-! ### List markers -/

/-- Names of markers. -/
def markerType : Reader String :=
  keyword ["none", "disc", "circle", "square", "decimal", "decimal-leading-zero", "lower-roman",
    "upper-roman", "lower-greek", "lower-latin", "upper-latin", "lower-alpha", "upper-alpha",
    "armenian", "georgian"] <|> stringText <$> string <|> customIdent

/-- The marker of a list item. -/
def listStyle : Reader String := do
  let found ← anyOrder [keyword ["inside", "outside"], markerType, image]
  match found with
  | [place, kind, picture] =>
    pure (joinSome "disc" [unlessInitial "disc" kind, unlessInitial "none" picture,
      unlessInitial "outside" place])
  | _ => failure

end ComponentMarkup.Style
