import ComponentMarkup.Style.ColorName
import ComponentMarkup.Style.Reader

/-!
# Colors

Colors in all notations, and their shortest texts.

## Main definitions

* `Style.Rgba` — a color with four parts of eight bits
* `Style.Rgba.text` — its shortest text
* `Style.hashColor?` — a color in digits
* `Style.color` — reads a color and gives its shortest text
-/

namespace ComponentMarkup.Style

/-- A color with its opacity, each part below 256. -/
structure Rgba where
  red : Nat
  green : Nat
  blue : Nat
  alpha : Nat
  deriving DecidableEq

/-- The digits of the parts of a color: one digit for each part if all parts have equal digits. -/
def colorDigits (parts : List Nat) : String :=
  let isPair (n : Nat) : Bool := n % 16 == n / 16
  "#" ++ String.ofList (if parts.all isPair then parts.map fun n => hexDigit (n % 16)
    else parts.flatMap fun n => [hexDigit (n / 16), hexDigit (n % 16)])

/-- The shortest text of a color. -/
def Rgba.text (c : Rgba) : String :=
  if c.alpha == 255 then
    match shortName? (c.red * 65536 + c.green * 256 + c.blue) with
    | some name => name
    | none => colorDigits [c.red, c.green, c.blue]
  else colorDigits [c.red, c.green, c.blue, c.alpha]

/-- The color of three, four, six or eight digits. -/
def hashColor? (digits : String) : Option Rgba :=
  let values := digits.toList.filterMap hexValue?
  if values.length != digits.length then none
  else match values with
    | [r, g, b] => some ⟨r * 17, g * 17, b * 17, 255⟩
    | [r, g, b, a] => some ⟨r * 17, g * 17, b * 17, a * 17⟩
    | [r, r', g, g', b, b'] => some ⟨r * 16 + r', g * 16 + g', b * 16 + b', 255⟩
    | [r, r', g, g', b, b', a, a'] =>
      some ⟨r * 16 + r', g * 16 + g', b * 16 + b', a * 16 + a'⟩
    | _ => none

/-- A number between 0 and 255 as a part of a color. -/
def byteOf (x : Float32) : Nat :=
  let rounded := x.round
  if rounded < 0 || rounded.isNaN then 0
  else if 255 < rounded then 255
  else rounded.toUInt8.toNat

/-- A fraction as a part of a color. -/
def unitByte (x : Float32) : Nat := byteOf (x * 255)

/-! ### Components -/

/-- A component of a color: a number or a percentage. -/
inductive ColorPart
  | number (value : Float32)
  | percentage (value : Float32)

/-- Reads a component. -/
def colorPart : Reader ColorPart := (.number <$> number) <|> (.percentage <$> percentage)

/-- The opacity: a number, or a percentage. -/
def alphaValue : Reader Float32 := do
  let p ← colorPart
  let value := match p with
    | .number x => x
    | .percentage x => x / 100
  pure (if value < 0 then 0 else if 1 < value then 1 else value)

/-- An opacity after a given separator; full if there is none. -/
def alphaAfter (separator : Reader Unit) : Reader Float32 := (do separator; alphaValue) <|> pure 1

/-- Three components with their opacity, with commas or blanks between them. -/
def components {α β γ : Type} (a : Reader α) (b : Reader β) (c : Reader γ) :
    Reader (α × β × γ × Float32) :=
  (do
    let x ← a
    comma
    let y ← b
    comma
    let z ← c
    let alpha ← alphaAfter comma
    atEnd
    pure (x, y, z, alpha)) <|>
  (do
    let x ← a
    let y ← b
    let z ← c
    let alpha ← alphaAfter (delim '/')
    atEnd
    pure (x, y, z, alpha))

/-- The part of a color that a component of `rgb` gives. -/
def rgbByte : ColorPart → Nat
  | .number x => byteOf x
  | .percentage x => byteOf (x / 100 * 255)

/-- The degrees of a hue, at least 0 and below 360. -/
def hue : Reader Float32 := do
  let degrees ← number <|> (do
    let (value, unit) ← dimension angleUnits
    pure (match unit with
      | "grad" => value * 360 / 400
      | "rad" => value * 180 / 3.14159265
      | "turn" => value * 360
      | _ => value))
  pure (degrees - 360 * (degrees / 360).floor)

/-- The fraction that a percentage, or a number of hundredths, gives. -/
def fraction : Reader Float32 := do
  let p ← colorPart
  let value := match p with
    | .number x => x / 100
    | .percentage x => x / 100
  pure (if value < 0 then 0 else if 1 < value then 1 else value)

/-- One part of a color of a hue; `third` is the hue in thirds of the circle from that part on. -/
def hueToPart (low high third : Float32) : Float32 :=
  let third := if third < 0 then third + 3 else if 3 < third then third - 3 else third
  if third * 2 < 1 then low + (high - low) * third * 2
  else if third * 2 < 3 then high
  else if third < 2 then low + (high - low) * (2 - third) * 2
  else low

/-- Red, green and blue of a hue, a saturation and a lightness. -/
def hslParts (h s l : Float32) : Float32 × Float32 × Float32 :=
  let high := if l ≤ 0.5 then l * (s + 1) else l + s - l * s
  let low := l * 2 - high
  let third := h / 360 * 3
  (hueToPart low high (third + 1), hueToPart low high third, hueToPart low high (third - 1))

/-- Red, green and blue of a hue with shares of white and black. -/
def hwbParts (h w b : Float32) : Float32 × Float32 × Float32 :=
  if 1 ≤ w + b then
    let gray := w / (w + b)
    (gray, gray, gray)
  else
    let (red, green, blue) := hslParts h 1 0.5
    let x := 1 - w - b
    (red * x + w, green * x + w, blue * x + w)

/-- A color of parts between 0 and 1. -/
def rgbaOf (parts : Float32 × Float32 × Float32) (alpha : Float32) : Rgba :=
  ⟨unitByte parts.1, unitByte parts.2.1, unitByte parts.2.2, unitByte alpha⟩

/-! ### Notations -/

/-- The arguments of `rgb`. -/
def rgbArguments : Reader Rgba := do
  let (r, g, b, alpha) ← components colorPart colorPart colorPart
  pure ⟨rgbByte r, rgbByte g, rgbByte b, unitByte alpha⟩

/-- The arguments of `hsl`. -/
def hslArguments : Reader Rgba := do
  let (h, s, l, alpha) ← components hue fraction fraction
  pure (rgbaOf (hslParts h s l) alpha)

/-- The arguments of `hwb`. -/
def hwbArguments : Reader Rgba := do
  let (h, w, b, alpha) ← components hue fraction fraction
  pure (rgbaOf (hwbParts h w b) alpha)

/-- An opacity at the end of a color function. -/
def alphaText (alpha : Float32) : String := if alpha == 1 then "" else "/" ++ numberText alpha

/-- A component that is a number, a percentage of `full`, or `none`. -/
def scaledPart (full : Float32) : Reader String :=
  word "none" <|> (do
    let p ← colorPart
    pure (numberText (match p with
      | .number x => x
      | .percentage x => x / 100 * full)))

/-- The lightness of a color function, as a percentage; the number `full` is all of it. -/
def lightness (full : Float32) : Reader String :=
  word "none" <|> (do
    let p ← colorPart
    pure (percentageText (match p with
      | .number x => x / full * 100
      | .percentage x => x)))

/-- A hue as a number. -/
def hueText : Reader String := word "none" <|> numberText <$> hue

/-- The arguments of a color function of three components, with the function around them. -/
def colorFunction (name : String) (a b c : Reader String) : Reader String := do
  let x ← a
  let y ← b
  let z ← c
  let alpha ← alphaAfter (delim '/')
  atEnd
  pure (name ++ "(" ++ x ++ " " ++ y ++ " " ++ z ++ alphaText alpha ++ ")")

/-- The names of color spaces that `color` knows. -/
def colorSpaces : List String :=
  ["srgb", "srgb-linear", "display-p3", "a98-rgb", "prophoto-rgb", "rec2020", "xyz-d50", "xyz-d65",
    "xyz"]

/-- The arguments of `color`, with the function around them. -/
def colorArguments : Reader String := do
  let space ← keyword colorSpaces
  let values ← some1 (scaledPart 1)
  let alpha ← alphaAfter (delim '/')
  atEnd
  if values.length == 3 then
    pure ("color(" ++ (if space == "xyz-d65" then "xyz" else space) ++ " " ++
      " ".intercalate values ++ alphaText alpha ++ ")")
  else failure

/-- The color that a name stands for. -/
def colorOfName? (name : String) : Option String :=
  let name := lower name
  if name == "currentcolor" then some "currentColor"
  else if name == "transparent" then some (Rgba.text ⟨0, 0, 0, 0⟩)
  else match namedColor? name with
    | some rgb => some (Rgba.text ⟨rgb / 65536, rgb / 256 % 256, rgb % 256, 255⟩)
    | none => if systemColors.contains name then some name else none

/-- A color in any notation but `light-dark`. -/
def plainColor : Reader String :=
  part (fun p => match p with
    | .token (.ident name) _ => colorOfName? name
    | .token (.hash digits _) _ => (hashColor? digits).map Rgba.text
    | _ => none) <|>
  anyFunction fun name => match name with
    | "rgb" => Rgba.text <$> rgbArguments
    | "rgba" => Rgba.text <$> rgbArguments
    | "hsl" => Rgba.text <$> hslArguments
    | "hsla" => Rgba.text <$> hslArguments
    | "hwb" => Rgba.text <$> hwbArguments
    | "lab" => colorFunction name (lightness 100) (scaledPart 125) (scaledPart 125)
    | "lch" => colorFunction name (lightness 100) (scaledPart 150) hueText
    | "oklab" => colorFunction name (lightness 1) (scaledPart 0.4) (scaledPart 0.4)
    | "oklch" => colorFunction name (lightness 1) (scaledPart 0.4) hueText
    | "color" => colorArguments
    | _ => failure

/-- A color. -/
def color : Reader String :=
  plainColor <|> function "light-dark" (do
    let light ← plainColor
    comma
    let dark ← plainColor
    pure ("light-dark(" ++ light ++ "," ++ dark ++ ")"))

end ComponentMarkup.Style
