import ComponentMarkup.Style.Numeral

/-!
# Texts in style sheets

How names, strings, addresses and numbers with units are written.

## Main definitions

* `Style.identText`, `Style.nameText` — identifiers, and names that are none
* `Style.stringText` — strings in double quotes
* `Style.urlText` — addresses, with quotes where these are shorter
* `Style.dimensionText`, `Style.percentageText`, `Style.timeText` — numbers with units
-/

namespace ComponentMarkup.Style

/-! ### Escapes -/

/-- A character below 128 by its code. -/
def hexEscape (c : Char) : List Char := '\\' :: hexChars c.toNat ++ [' ']

/-- Whether a character is one that has no picture. -/
def isControl (c : Char) : Bool := (1 ≤ c.toNat && c.toNat ≤ 0x1F) || c.toNat == 0x7F

/-- A character in a name. -/
def nameChar (c : Char) : List Char :=
  if c.isAlphanum || c == '_' || c == '-' || 0x80 ≤ c.toNat then [c]
  else if c == '\x00' then ['\uFFFD']
  else if isControl c then hexEscape c
  else ['\\', c]

/-- A name. -/
def nameText (name : String) : String := String.ofList (name.toList.flatMap nameChar)

/-- The start of an identifier without its hyphen, and what follows as in any name. -/
def identStart : List Char → List Char
  | c :: rest => (if c.isDigit then hexEscape c else nameChar c) ++ rest.flatMap nameChar
  | [] => []

/-- An identifier. -/
def identText (name : String) : String :=
  String.ofList (match name.toList with
    | '-' :: '-' :: rest => '-' :: '-' :: rest.flatMap nameChar
    | ['-'] => ['\\', '-']
    | '-' :: rest => '-' :: identStart rest
    | cs => identStart cs)

/-- A character in a string. -/
def stringChar (c : Char) : List Char :=
  if c == '"' then ['\\', '"']
  else if c == '\\' then ['\\', '\\']
  else if c == '\x00' then ['\uFFFD']
  else if isControl c then hexEscape c
  else [c]

/-- A string in double quotes. -/
def stringText (value : String) : String :=
  "\"" ++ String.ofList (value.toList.flatMap stringChar) ++ "\""

/-- A character in an address without quotes. -/
def urlChar (c : Char) : List Char :=
  if c.toNat ≤ 0x20 || c.toNat == 0x7F then hexEscape c
  else if ['(', ')', '"', '\'', '\\'].contains c then ['\\', c]
  else [c]

/-- An address, in quotes if it is shorter so. -/
def urlText (address : String) : String :=
  let bare := "url(" ++ String.ofList (address.toList.flatMap urlChar) ++ ")"
  let quoted := "url(" ++ stringText address ++ ")"
  if address.utf8ByteSize + 7 < bare.utf8ByteSize && quoted.utf8ByteSize < bare.utf8ByteSize then
    quoted
  else bare

/-! ### Numbers with units -/

/-- A unit; one that would read as an exponent has its first letter escaped. -/
def unitText (unit : String) : String :=
  match unit.toList with
  | c :: rest =>
    if (c == 'e' || c == 'E') && (rest.isEmpty || rest.head? == some '-') then
      (if c == 'e' then "\\65 " else "\\45 ") ++ nameText (String.ofList rest)
    else identText unit
  | [] => ""

/-- A number with its unit. -/
def dimensionText (value : Float32) (unit : String) : String := numberText value ++ unitText unit

/-- A percentage. -/
def percentageText (value : Float32) : String := numberText value ++ "%"

/-- A time in seconds or milliseconds, whichever is shorter. -/
def timeText (value : Float32) (inSeconds : Bool) : String :=
  if inSeconds then
    if 0 < value && value < 0.1 then dimensionText (value * 1000) "ms" else dimensionText value "s"
  else if value == 0 || 100 ≤ value then dimensionText (value / 1000) "s"
  else dimensionText value "ms"

/-- The units of lengths. -/
def lengthUnits : List String :=
  ["px", "in", "cm", "mm", "q", "pt", "pc", "em", "rem", "ex", "rex", "ch", "rch", "cap", "rcap",
    "ic", "ric", "lh", "rlh", "vw", "lvw", "svw", "dvw", "cqw", "vh", "lvh", "svh", "dvh", "cqh",
    "vi", "svi", "lvi", "dvi", "cqi", "vb", "svb", "lvb", "dvb", "cqb", "vmin", "svmin", "lvmin",
    "dvmin", "cqmin", "vmax", "svmax", "lvmax", "dvmax", "cqmax"]

/-- The units of angles. -/
def angleUnits : List String := ["deg", "grad", "rad", "turn"]

/-- An angle. -/
def angleText (value : Float32) (unit : String) : String := dimensionText value unit

/-- A resolution. -/
def resolutionText (value : Float32) (unit : String) : String :=
  dimensionText value (if unit == "dppx" then "x" else unit)

end ComponentMarkup.Style
