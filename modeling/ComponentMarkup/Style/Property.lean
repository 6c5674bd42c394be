import ComponentMarkup.Style.Raw
import ComponentMarkup.Style.Value.Box
import ComponentMarkup.Style.Value.Font
import ComponentMarkup.Style.Value.Grid
import ComponentMarkup.Style.Value.Image
import ComponentMarkup.Style.Value.Motion
import ComponentMarkup.Text.Search

/-!
# Properties

Which values the properties understand. A value that its property does not understand is kept as it
is, and so are all values of properties that are not known.

## Main definitions

* `Style.valueReader?` — how the values of a property are read
* `Style.propertyName` — the name of a property as it is written
* `Style.valueText?` — the shortest text of a value
-/

namespace ComponentMarkup.Style

/-! ### Grammars -/

/-- Properties whose values are colors. -/
def colorProperties : List String :=
  ["color", "background-color", "border-top-color", "border-right-color", "border-bottom-color",
    "border-left-color", "border-block-start-color", "border-block-end-color",
    "border-inline-start-color", "border-inline-end-color", "outline-color",
    "text-decoration-color", "text-emphasis-color"]

/-- Properties whose values are lengths, percentages or `auto`. -/
def lengthProperties : List String :=
  ["top", "right", "bottom", "left", "inset-block-start", "inset-block-end", "inset-inline-start",
    "inset-inline-end", "margin-top", "margin-right", "margin-bottom", "margin-left",
    "margin-block-start", "margin-block-end", "margin-inline-start", "margin-inline-end",
    "padding-top", "padding-right", "padding-bottom", "padding-left", "padding-block-start",
    "padding-block-end", "padding-inline-start", "padding-inline-end", "scroll-margin-top",
    "scroll-margin-right", "scroll-margin-bottom", "scroll-margin-left", "scroll-padding-top",
    "scroll-padding-right", "scroll-padding-bottom", "scroll-padding-left", "flex-basis"]

/-- Properties whose values are sizes. -/
def sizeProperties : List String :=
  ["width", "height", "min-width", "min-height", "block-size", "inline-size", "min-block-size",
    "min-inline-size"]

/-- Properties whose values are greatest sizes. -/
def maxSizeProperties : List String :=
  ["max-width", "max-height", "max-block-size", "max-inline-size"]

/-- Properties of the borders of a side. -/
def borderProperties : List String :=
  ["border", "border-top", "border-right", "border-bottom", "border-left", "border-block",
    "border-block-start", "border-block-end", "border-inline", "border-inline-start",
    "border-inline-end"]

/-- Properties whose values are words: the property and its words. -/
def wordProperties : List (String × List String) :=
  [("display", ["none", "contents", "block", "inline", "inline-block", "flow-root", "flex",
      "inline-flex", "grid", "inline-grid", "table", "inline-table", "list-item", "table-row",
      "table-cell", "table-column", "table-caption", "table-row-group", "table-header-group",
      "table-footer-group", "table-column-group", "ruby", "run-in", "math"]),
    ("visibility", ["visible", "hidden", "collapse"]),
    ("position", ["static", "relative", "absolute", "fixed", "sticky"]),
    ("box-sizing", ["content-box", "border-box"]),
    ("overflow-x", ["visible", "hidden", "clip", "scroll", "auto"]),
    ("overflow-y", ["visible", "hidden", "clip", "scroll", "auto"]),
    ("text-overflow", ["clip", "ellipsis"]),
    ("flex-direction", ["row", "row-reverse", "column", "column-reverse"]),
    ("flex-wrap", ["nowrap", "wrap", "wrap-reverse"]),
    ("border-collapse", ["collapse", "separate"]),
    ("text-transform", ["none", "uppercase", "lowercase", "capitalize"]),
    ("white-space", ["normal", "pre", "nowrap", "pre-wrap", "break-spaces", "pre-line"]),
    ("text-align", ["start", "end", "left", "right", "center", "justify", "match-parent",
      "justify-all"]),
    ("word-break", ["normal", "keep-all", "break-all", "break-word"]),
    ("overflow-wrap", ["normal", "anywhere", "break-word"]),
    ("word-wrap", ["normal", "anywhere", "break-word"]),
    ("hyphens", ["none", "manual", "auto"]),
    ("direction", ["ltr", "rtl"]),
    ("resize", ["none", "both", "horizontal", "vertical", "block", "inline"]),
    ("user-select", ["auto", "text", "none", "contain", "all"]),
    ("backface-visibility", ["visible", "hidden"]),
    ("transform-style", ["flat", "preserve-3d"]),
    ("list-style-position", ["inside", "outside"]),
    ("text-decoration-style", ["solid", "double", "dotted", "dashed", "wavy"]),
    ("background-attachment", ["scroll", "fixed", "local"]),
    ("box-decoration-break", ["slice", "clone"]),
    ("unicode-bidi", ["normal", "embed", "isolate", "bidi-override", "isolate-override",
      "plaintext"]),
    ("align-items", ["normal", "stretch", "center", "start", "end", "self-start", "self-end",
      "flex-start", "flex-end", "baseline"]),
    ("align-self", ["auto", "normal", "stretch", "center", "start", "end", "self-start",
      "self-end", "flex-start", "flex-end", "baseline"]),
    ("justify-content", ["normal", "space-between", "space-around", "space-evenly", "stretch",
      "center", "start", "end", "flex-start", "flex-end", "left", "right"]),
    ("align-content", ["normal", "space-between", "space-around", "space-evenly", "stretch",
      "center", "start", "end", "flex-start", "flex-end", "baseline"])]

/-- The line of a text decoration. -/
def decorationLine : Reader String :=
  word "none" <|> (do
    let words ← some1 (keyword ["underline", "overline", "line-through", "blink"])
    pure (" ".intercalate
      (["underline", "overline", "line-through", "blink"].filter words.contains)))

/-- A text decoration: its line, thickness, style and color. -/
def textDecoration : Reader String := do
  let found ← anyOrder [decorationLine, keyword ["auto", "from-font"] <|> lengthPercentage,
    keyword ["solid", "double", "dotted", "dashed", "wavy"], color]
  match found with
  | [line, thickness, style, shade] =>
    let line := line.getD "none"
    if line == "none" then pure line
    else pure (joinSome line [some line, unlessInitial "auto" thickness,
      unlessInitial "solid" style, unlessInitial "currentColor" shade])
  | _ => failure

/-- How items of a flexible box flow. -/
def flexFlow : Reader String := do
  let found ← anyOrder [keyword ["row", "row-reverse", "column", "column-reverse"],
    keyword ["nowrap", "wrap", "wrap-reverse"]]
  match found with
  | [direction, wrap] =>
    pure (joinSome "row" [unlessInitial "row" direction, unlessInitial "nowrap" wrap])
  | _ => failure

/-- A ratio of width and height. -/
def aspectRatio : Reader String := do
  let before ← optional (word "auto")
  let shape ← optional (do
    let width ← plainNumberValue
    match ← optional (do delim '/'; plainNumberValue) with
    | some height => pure (if height == "1" then width else width ++ "/" ++ height)
    | none => pure width)
  let after ← if before.isNone && shape.isSome then optional (word "auto") else pure none
  match (before <|> after).toList ++ shape.toList with
  | [] => failure
  | texts => pure (" ".intercalate texts)

/-- Words for the shapes of a pointer. -/
def cursorWords : List String :=
  ["auto", "default", "none", "context-menu", "help", "pointer", "progress", "wait", "cell",
    "crosshair", "text", "vertical-text", "alias", "copy", "move", "no-drop", "not-allowed",
    "grab", "grabbing", "e-resize", "n-resize", "ne-resize", "nw-resize", "s-resize", "se-resize",
    "sw-resize", "w-resize", "ew-resize", "ns-resize", "nesw-resize", "nwse-resize", "col-resize",
    "row-resize", "all-scroll", "zoom-in", "zoom-out"]

/-- The shape of a pointer: pictures, and a word for when there are none. -/
def cursor : Reader String := do
  let pictures ← many (do
    let address ← url
    let place ← optional (do
      let x ← plainNumberValue
      let y ← plainNumberValue
      pure (" " ++ x ++ " " ++ y))
    comma
    pure (urlText address ++ place.getD ""))
  let shape ← keyword cursorWords
  pure (",".intercalate (pictures ++ [shape]))

/-- The words of a property whose values are words. -/
def wordsOf (name : String) : List String :=
  ((wordProperties.find? (·.1 == name)).map Prod.snd).getD []

/-- The places of content along two directions. -/
def placement (name : String) (across : List String) : Reader String := do
  let down ← keyword (wordsOf name)
  match ← optional (keyword across) with
  | some a => pure (if a == down then down else down ++ " " ++ a)
  | none => pure down

/-- In which direction items flow into a grid, and whether they fill holes. -/
def gridFlow : Reader String := do
  let found ← anyOrder [keyword ["row", "column"], word "dense"]
  match found with
  | [direction, some dense] => pure (joinSome dense [unlessInitial "row" direction, some dense])
  | [direction, none] => pure (direction.getD "row")
  | _ => failure

/-- A movement of its own property: trailing zeros are left out. -/
def translation : Reader String :=
  word "none" <|> (do
    let x ← lengthPercentage
    let y ← optional lengthPercentage
    let z ← if y.isSome then optional length else pure none
    match y.getD "0", z.getD "0" with
    | "0", "0" => pure x
    | y, "0" => pure (x ++ " " ++ y)
    | y, z => pure (x ++ " " ++ y ++ " " ++ z))

/-- A change of size of its own property. -/
def scaling : Reader String :=
  word "none" <|> (do
    let x ← ratioValue
    let y ← optional ratioValue
    let z ← if y.isSome then optional ratioValue else pure none
    match y.getD x, z.getD "1" with
    | y, "1" => pure (if y == x then x else x ++ " " ++ y)
    | y, z => pure (x ++ " " ++ y ++ " " ++ z))

/-- How the values of a property are read, if the property is one of those below. -/
def singleReader? (name : String) : Option (Reader String) :=
  match name with
  | "margin" => some (sides lengthOrAuto)
  | "padding" => some (sides lengthOrAuto)
  | "inset" => some (sides lengthOrAuto)
  | "scroll-margin" => some (sides lengthOrAuto)
  | "scroll-padding" => some (sides lengthOrAuto)
  | "margin-block" => some (pair lengthOrAuto)
  | "margin-inline" => some (pair lengthOrAuto)
  | "padding-block" => some (pair lengthOrAuto)
  | "padding-inline" => some (pair lengthOrAuto)
  | "inset-block" => some (pair lengthOrAuto)
  | "inset-inline" => some (pair lengthOrAuto)
  | "gap" => some (pair (lengthOr ["normal"]))
  | "row-gap" => some (lengthOr ["normal"])
  | "column-gap" => some (lengthOr ["normal"])
  | "border-spacing" => some (pair length)
  | "border-width" => some (sides borderWidth)
  | "border-style" => some (sides borderStyle)
  | "border-color" => some (sides color)
  | "border-radius" => some borderRadius
  | "outline" => some (lineOf outlineStyle)
  | "outline-style" => some outlineStyle
  | "outline-width" => some borderWidth
  | "box-shadow" => some boxShadow
  | "text-shadow" => some textShadow
  | "opacity" => some ratioValue
  | "fill-opacity" => some ratioValue
  | "stroke-opacity" => some ratioValue
  | "overflow" => some (pair (keyword ["visible", "hidden", "clip", "scroll", "auto"]))
  | "flex" => some flexValue
  | "flex-flow" => some flexFlow
  | "flex-grow" => some plainNumberValue
  | "flex-shrink" => some plainNumberValue
  | "order" => some integerValue
  | "z-index" => some (word "auto" <|> integerValue)
  | "grid-template-columns" => some trackList
  | "grid-template-rows" => some trackList
  | "grid-auto-columns" => some trackSizes
  | "grid-auto-rows" => some trackSizes
  | "grid-template-areas" => some gridAreas
  | "grid-row" => some gridLines
  | "grid-column" => some gridLines
  | "grid-row-start" => some (GridLine.text <$> gridLine)
  | "grid-row-end" => some (GridLine.text <$> gridLine)
  | "grid-column-start" => some (GridLine.text <$> gridLine)
  | "grid-column-end" => some (GridLine.text <$> gridLine)
  | "grid-area" => some gridArea
  | "grid-auto-flow" => some gridFlow
  | "aspect-ratio" => some aspectRatio
  | "translate" => some translation
  | "scale" => some scaling
  | "rotate" => some (word "none" <|> angle)
  | "mask-image" => some (listOf image)
  | "border-image-source" => some image
  | "stroke-width" => some lengthPercentage
  | "stroke-dashoffset" => some lengthPercentage
  | "stroke-miterlimit" => some plainNumberValue
  | "text-decoration-thickness" => some (lengthOr ["auto", "from-font"])
  | "border-block-color" => some (pair color)
  | "border-inline-color" => some (pair color)
  | "border-block-style" => some (pair borderStyle)
  | "border-inline-style" => some (pair borderStyle)
  | "border-block-width" => some (pair borderWidth)
  | "border-inline-width" => some (pair borderWidth)
  | "cursor" => some cursor
  | "place-content" => some (placement "align-content" (wordsOf "justify-content"))
  | "place-items" => some (placement "align-items" (wordsOf "align-items"))
  | "place-self" => some (placement "align-self" (wordsOf "align-self"))
  | "font" => some font
  | "font-family" => some fontFamily
  | "font-weight" => some fontWeight
  | "font-size" => some fontSize
  | "font-style" => some fontStyle
  | "font-stretch" => some fontStretch
  | "font-variant-caps" => some fontCaps
  | "line-height" => some lineHeight
  | "letter-spacing" => some (word "normal" <|> length)
  | "word-spacing" => some (word "normal" <|> length)
  | "text-indent" => some lengthPercentage
  | "tab-size" => some (plainNumberValue <|> length)
  | "vertical-align" => some (lengthOr ["baseline", "sub", "super", "text-top", "text-bottom",
      "middle", "top", "bottom"])
  | "text-decoration" => some textDecoration
  | "text-decoration-line" => some decorationLine
  | "background" => some background
  | "background-image" => some (listOf image)
  | "background-position" => some (listOf position)
  | "background-size" => some (listOf imageSize)
  | "background-repeat" => some (listOf repetition)
  | "background-origin" => some (listOf boxName)
  | "list-style" => some listStyle
  | "list-style-type" => some markerType
  | "list-style-image" => some image
  | "transition" => some transition
  | "transition-duration" => some (listOf time)
  | "transition-delay" => some (listOf time)
  | "transition-timing-function" => some (listOf easing)
  | "animation" => some animation
  | "animation-name" => some (listOf animationName)
  | "animation-duration" => some (listOf time)
  | "animation-delay" => some (listOf time)
  | "animation-timing-function" => some (listOf easing)
  | "animation-iteration-count" => some (listOf iterationCount)
  | "transform" => some transform
  | "transform-origin" => some position
  | "object-position" => none
  | "perspective" => some (word "none" <|> length)
  | "perspective-origin" => some position
  | "filter" => some filter
  | "backdrop-filter" => some filter
  | "caret-color" => some (word "auto" <|> color)
  | "accent-color" => some (word "auto" <|> color)
  | "fill" => some (word "none" <|> color)
  | "stroke" => some (word "none" <|> color)
  | "all" => some (keyword ["initial", "inherit", "unset", "revert", "revert-layer"])
  | _ => none

/-- How the values of a family of properties are read. -/
def familyReader? (name : String) : Option (Reader String) :=
  if colorProperties.contains name then some color
  else if lengthProperties.contains name then some lengthOrAuto
  else if sizeProperties.contains name then some sizeValue
  else if maxSizeProperties.contains name then some maxSizeValue
  else if borderProperties.contains name then some borderSide
  else if hasStart name "border-" && hasEnd name "-radius" then some (pair lengthPercentage)
  else if hasStart name "border-" && hasEnd name "-width" then some borderWidth
  else if hasStart name "border-" && hasEnd name "-style" then some borderStyle
  else (wordProperties.find? (·.1 == name)).map fun entry => keyword entry.2

/-- How the values of a property without a prefix are read. -/
def plainReader? (name : String) : Option (Reader String) := singleReader? name <|> familyReader? name

/-! ### Names -/

/-- The prefixes of properties that are particular to a browser. -/
def vendorPrefixes : List String := ["-webkit-", "-moz-", "-ms-", "-o-"]

/-- Properties that browsers have had under names with a prefix. -/
def prefixedProperties : List String :=
  ["transition", "transition-duration", "transition-delay", "transition-timing-function",
    "transition-property", "animation", "animation-name", "animation-duration",
    "animation-delay", "animation-timing-function", "animation-iteration-count",
    "animation-direction", "animation-fill-mode", "animation-play-state", "transform",
    "transform-origin", "transform-style", "perspective", "perspective-origin",
    "backface-visibility", "box-shadow", "box-sizing", "border-radius", "flex", "flex-direction",
    "flex-wrap", "flex-flow", "flex-grow", "flex-shrink", "flex-basis", "order", "justify-content",
    "align-items", "align-content", "align-self", "user-select", "filter", "backdrop-filter",
    "background-size", "background-clip", "background-origin", "text-decoration",
    "text-decoration-color", "text-decoration-line", "text-decoration-style", "hyphens",
    "appearance", "tab-size", "text-overflow", "box-decoration-break", "clip-path", "mask",
    "mask-image", "print-color-adjust", "text-size-adjust"]

/-- A name without the prefix of a browser, if the property is one that has had it. -/
def withoutPrefix (name : String) : String :=
  match (vendorPrefixes.findSome? fun p => dropStart? name p) with
  | some base => if prefixedProperties.contains base then base else name
  | none => name

/-- Properties that are known besides those whose values are understood. -/
def knownNames : List String :=
  ["align-tracks", "animation-composition", "animation-direction", "animation-fill-mode",
    "animation-play-state", "animation-range", "animation-timeline", "appearance",
    "background-clip", "background-position-x", "background-position-y", "border-image",
    "border-image-outset", "border-image-repeat", "border-image-slice", "border-image-width",
    "caret", "caret-shape", "clip-path", "clip-rule", "color-scheme", "container", "container-name",
    "container-type", "fill-rule", "font-palette", "grid", "grid-template", "image-rendering",
    "justify-items", "justify-self", "line-break", "marker", "marker-end", "marker-mid",
    "marker-side", "marker-start", "mask", "mask-border", "mask-clip", "mask-composite",
    "mask-mode", "mask-origin", "mask-position", "mask-repeat", "mask-size", "mask-type",
    "print-color-adjust", "shape-rendering", "stroke-dasharray", "stroke-linecap",
    "stroke-linejoin", "text-align-last", "text-decoration-skip-ink", "text-emphasis",
    "text-emphasis-position", "text-emphasis-style", "text-justify", "text-rendering",
    "text-size-adjust", "transform-box", "transition-property", "view-transition-name"]

/-- Whether a name in lower case is that of a known property. -/
def isKnown (name : String) : Bool :=
  (plainReader? (withoutPrefix name)).isSome || knownNames.contains (withoutPrefix name)

/-- The name of a property as it is written: that of a known one in lower case. -/
def propertyName (name : String) : String :=
  if isKnown (lower name) then lower name else identText name

/-- Whether a property is of the author's own making. -/
def isCustomProperty (name : String) : Bool := name.toList.take 2 == ['-', '-']

/-! ### Values -/

/-- The shortest text of a value; none if a token is broken. -/
def valueText? (name : String) (value : List Part) : Option String :=
  let base := withoutPrefix (lower name)
  match (plainReader? base).bind fun r => readAll? r value with
  | some text => some text
  | none => if base == "all" then none else rawText? value

end ComponentMarkup.Style
