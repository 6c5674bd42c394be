import ComponentMarkup.Style.Value.Measure

/-!
# Fonts

Values for fonts and lines of text.

## Main definitions

* `Style.fontFamily` — a list of families, without quotes where these are not needed
* `Style.fontWeight`, `Style.fontSize`, `Style.fontStyle`, `Style.fontStretch`, `Style.lineHeight`
* `Style.font` — all of them
-/

namespace ComponentMarkup.Style

/-- Families that the surroundings choose, and words that are no families. -/
def genericFamilies : List String :=
  ["serif", "sans-serif", "cursive", "fantasy", "monospace", "system-ui", "emoji", "math",
    "fangsong", "ui-serif", "ui-sans-serif", "ui-monospace", "ui-rounded", "initial", "inherit",
    "unset", "default", "revert", "revert-layer"]

/-- The name of a family, without quotes if it is shorter so. -/
def familyText (name : String) : String :=
  let words := (splitWhere (· == ' ') name.toList).map fun w => identText (String.ofList w)
  let bare := " ".intercalate words
  if name != "" && !genericFamilies.contains (lower name) && bare.utf8ByteSize < name.utf8ByteSize + 2
  then bare else stringText name

/-- A family. -/
def family : Reader String :=
  keyword genericFamilies <|> familyText <$> string <|>
    (fun words => familyText (" ".intercalate words)) <$> some1 ident

/-- A list of families. -/
def fontFamily : Reader String := listOf family

/-- The weight of a font. -/
def fontWeight : Reader String :=
  keyword ["bolder", "lighter"] <|> (fun _ => "400") <$> word "normal" <|>
    (fun _ => "700") <$> word "bold" <|> plainNumberValue

/-- Words for sizes of fonts. -/
def fontSizeWords : List String :=
  ["xx-small", "x-small", "small", "medium", "large", "x-large", "xx-large", "xxx-large", "smaller",
    "larger"]

/-- The size of a font. -/
def fontSize : Reader String := lengthOr fontSizeWords

/-- The style of a font. -/
def fontStyle : Reader String :=
  keyword ["normal", "italic"] <|> (do
    let _ ← word "oblique"
    let slant ← optional angle
    pure (match slant with
      | some a => if a == "14deg" then "oblique" else "oblique " ++ a
      | none => "oblique"))

/-- Words for widths of fonts, and the percentages that they mean. -/
def stretches : List (String × String) :=
  [("normal", "100%"), ("ultra-condensed", "50%"), ("extra-condensed", "62.5%"),
    ("condensed", "75%"), ("semi-condensed", "87.5%"), ("semi-expanded", "112.5%"),
    ("expanded", "125%"), ("extra-expanded", "150%"), ("ultra-expanded", "200%")]

/-- The width of a font. -/
def fontStretch : Reader String :=
  emit (keyword (stretches.map Prod.fst)) (fun w => (stretches.find? (·.1 == w)).map Prod.snd) <|>
    percentageValue

/-- The height of a line. -/
def lineHeight : Reader String := word "normal" <|> plainNumberValue <|> lengthPercentage

/-- Words for capital letters. -/
def fontCaps : Reader String :=
  keyword ["normal", "small-caps", "all-small-caps", "petite-caps", "all-petite-caps", "unicase",
    "titling-caps"]

/-- A font: its style, capitals, weight and width, its size and line height, and its families. -/
def font : Reader String := do
  let start ← optional (anyOrder [word "normal", fontStyle, fontWeight, word "small-caps",
    keyword (stretches.map Prod.fst), word "normal", word "normal", word "normal"])
  let size ← fontSize
  let height ← optional (do
    delim '/'
    lineHeight)
  let families ← fontFamily
  let features := match start with
    | some (_ :: style :: weight :: caps :: width :: _) =>
      [unlessInitial "normal" style, caps, unlessInitial "400" weight, unlessInitial "normal" width]
    | _ => []
  pure (joinSome "" (features ++ [some (size ++ match height with
    | some h => if h == "normal" then "" else "/" ++ h
    | none => ""), some families]))

end ComponentMarkup.Style
