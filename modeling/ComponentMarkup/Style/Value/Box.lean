import ComponentMarkup.Style.Value.Measure

/-!
# Boxes

Values for sizes, spaces, borders, outlines and shadows.

## Main definitions

* `Style.borderSide`, `Style.borderStyle`, `Style.borderWidth`, `Style.borderRadius`
* `Style.sizeValue`, `Style.maxSizeValue` — sizes
* `Style.boxShadow`, `Style.textShadow` — shadows
* `Style.flexValue` — how an item grows and shrinks
-/

namespace ComponentMarkup.Style

/-- A length, a percentage, or `auto`. -/
def lengthOrAuto : Reader String := lengthOr ["auto"]

/-- Words for sizes that follow from the content. -/
def contentSizes : List String :=
  ["min-content", "max-content", "fit-content", "stretch", "contain", "-webkit-min-content",
    "-moz-min-content", "-webkit-max-content", "-moz-max-content", "-webkit-fit-content",
    "-moz-fit-content", "-webkit-fill-available", "-moz-available"]

/-- A size with a limit. -/
def fitContent : Reader String :=
  (fun text => "fit-content(" ++ text ++ ")") <$> function "fit-content" lengthPercentage

/-- A size. -/
def sizeValue : Reader String := lengthOr ("auto" :: contentSizes) <|> fitContent

/-- A greatest size. -/
def maxSizeValue : Reader String := lengthOr ("none" :: contentSizes) <|> fitContent

/-! ### Borders -/

/-- The style of a line. -/
def borderStyle : Reader String :=
  keyword ["none", "inset", "groove", "outset", "ridge", "dotted", "dashed", "solid", "double",
    "hidden"]

/-- The style of an outline. -/
def outlineStyle : Reader String := word "auto" <|> borderStyle

/-- The width of a line. -/
def borderWidth : Reader String := keyword ["thin", "medium", "thick"] <|> length

/-- A line: its width, style and color. -/
def lineOf (style : Reader String) : Reader String :=
  shorthand "none" [(borderWidth, "medium"), (style, "none"), (color, "currentColor")]

/-- The border of a side. -/
def borderSide : Reader String := lineOf borderStyle

/-- The radii of corners: horizontal ones, and vertical ones if they differ. -/
def borderRadius : Reader String := do
  let across ← sides lengthPercentage
  let down ← optional (do
    delim '/'
    sides lengthPercentage)
  pure (match down with
    | some down => if down == across then across else across ++ "/" ++ down
    | none => across)

/-! ### Shadows -/

/-- A shadow: its offsets, blur and spread, and its color. -/
def shadowOf (allowsInset : Bool) : Reader String := do
  let found ← anyOrder [
    if allowsInset then word "inset" else failure,
    do
      let x ← length
      let y ← length
      let blur ← optional length
      let extent ← optional length
      let blur := blur.getD "0"
      let extent := extent.getD "0"
      pure (x ++ " " ++ y ++
        (if blur == "0" && extent == "0" then "" else " " ++ blur) ++
        (if extent == "0" then "" else " " ++ extent)),
    color]
  match found with
  | [inset, some offsets, shade] =>
    pure (joinSome offsets [inset, some offsets, unlessInitial "currentColor" shade])
  | _ => failure

/-- Shadows of a box. -/
def boxShadow : Reader String := listOf (shadowOf true)

/-- Shadows of a text. -/
def textShadow : Reader String := listOf (shadowOf false)

/-! ### Flexible items -/

/-- How an item grows and shrinks, from its factors and its base. The base `0%` can be left out; the
base `0` needs both factors before it. -/
def flexText (grow shrink basis : String) : String :=
  if grow == "0" && shrink == "0" && basis == "auto" then "none"
  else
    let factors :=
      if grow != "1" || shrink != "1" || basis == "0" || basis == "0%" then
        [grow] ++ if shrink != "1" || basis == "0" then [shrink] else []
      else []
    " ".intercalate (factors ++ if basis == "0%" then [] else [basis])

/-- How an item grows and shrinks. -/
def flexValue : Reader String :=
  (fun _ => "none") <$> word "none" <|> (do
    let found ← anyOrder [
      do
        let grow ← plainNumberValue
        let shrink ← optional plainNumberValue
        pure (grow, shrink.getD "1"),
      do
        let basis ← lengthOrAuto
        pure (basis, "")]
    match found with
    | [factors, basis] =>
      let (grow, shrink) := factors.getD ("1", "1")
      pure (flexText grow shrink ((basis.map Prod.fst).getD "0%"))
    | _ => failure)

end ComponentMarkup.Style
