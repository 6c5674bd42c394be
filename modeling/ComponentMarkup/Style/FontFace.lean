import ComponentMarkup.Style.Declaration
import ComponentMarkup.Style.Value.Font

/-!
# Font faces

What is said of a font that a style sheet brings along. What cannot be read is left out.

## Main definitions

* `Style.fontFaceText` — the shortest text of a font face
-/

namespace ComponentMarkup.Style

/-! ### Sources -/

/-- The format of a font, always in quotes. -/
def fontFormat : Reader String :=
  (fun name =>
    let known := ["woff", "woff2", "truetype", "opentype", "embedded-opentype", "collection", "svg"]
    stringText (if known.contains (lower name) then lower name else name)) <$> (ident <|> string)

/-- Where a font comes from. -/
def fontSource : Reader String :=
  (do
    let address ← url
    let format ← optional (function "format" fontFormat)
    let tech ← optional (function "tech" (commaList ident))
    pure (urlText address ++ ((format.map fun f => "format(" ++ f ++ ")").getD "") ++
      ((tech.map fun ts => "tech(" ++ ",".intercalate (ts.map lower) ++ ")").getD ""))) <|>
  (fun name => "local(" ++ name ++ ")") <$> function "local" family

/-! ### Ranges of characters -/

/-- The code of a character, from up to six hexadecimal digits. -/
def codeOf? (digits : List Char) : Option Nat :=
  if digits.isEmpty || 6 < digits.length || !digits.all isHexDigit then none
  else some (readHex digits)

/-- A hexadecimal number in capitals. -/
def hexUpper (n : Nat) : String := (String.ofList (Nat.toDigits 16 n)).map Char.toUpper

/-- A range as it is written: with question marks for the last digits that may be any. -/
def rangeText (start stop : Nat) : String :=
  let free := (List.range 6).find? fun k =>
    start != stop && start % Nat.pow 16 (k + 1) == 0 && stop == start + (Nat.pow 16 (k + 1) - 1)
  match free with
  | some k =>
    let start := start / Nat.pow 16 (k + 1)
    "U+" ++ (if start == 0 then "" else hexUpper start) ++ String.ofList (List.replicate (k + 1) '?')
  | none => "U+" ++ hexUpper start ++ if start == stop then "" else "-" ++ hexUpper stop

/-- A range of characters, from its text. -/
def unicodeRange? (text : List Char) : Option String :=
  match text with
  | u :: '+' :: rest =>
    if u.toLower != 'u' then none
    else
      let (digits, after) := rest.span isHexDigit
      let free := after.takeWhile (· == '?')
      match after.drop free.length with
      | [] =>
        if free.isEmpty then (codeOf? digits).map fun n => rangeText n n
        else
          match codeOf? (digits ++ free.map fun _ => '0'),
            codeOf? (digits ++ free.map fun _ => 'F') with
          | some start, some stop => some (rangeText start stop)
          | _, _ => none
      | '-' :: last =>
        if !free.isEmpty then none
        else match codeOf? digits, codeOf? last with
          | some start, some stop => if start ≤ stop then some (rangeText start stop) else none
          | _, _ => none
      | _ => none
  | _ => none

/-- Ranges of characters with commas between them. -/
def unicodeRanges? (parts : List Part) : Option String :=
  ((parts.splitOnP Part.isComma).mapM fun segment => unicodeRange? (sourceOf (significant segment))).map
    (",".intercalate ·)

/-! ### Font faces -/

/-- The style of the faces of a font. -/
def faceStyle : Reader String :=
  (do
    let _ ← word "oblique"
    let low ← angle
    let high ← optional angle
    match high with
    | some h => if h == low then failure else pure ("oblique " ++ low ++ " " ++ h)
    | none => failure) <|> fontStyle

/-- What is said of a font, from the name of a property in lower case and its value. -/
def faceValue? (name : String) (value : List Part) : Option (Option String) :=
  let read (r : Reader String) : Option (Option String) :=
    match r.run (significant value) with
    | some (text, []) => some (some text)
    | some _ => some none
    | none => none
  match name with
  | "src" => read (listOf fontSource)
  | "font-family" => read family
  | "font-weight" => read (pair fontWeight)
  | "font-stretch" => read (pair fontStretch)
  | "font-style" => read faceStyle
  | "unicode-range" => (unicodeRanges? value).map some
  | _ => none

/-- What is said of a font, as it is written. -/
def faceEntry? : Entry → Option String
  | .declaration name value =>
    match faceValue? (lower name) value with
    | some text => text.map fun t => lower name ++ ":" ++ t
    | none =>
      if value.any Part.isBang then none else (rawText? value).map fun t => name ++ ":" ++ t
  | _ => none

/-- A font face as it is written, from its body. -/
def fontFaceText (body : List Part) : String :=
  "@font-face\x7b" ++ ";".intercalate ((entries body).filterMap faceEntry?) ++ "\x7d"

end ComponentMarkup.Style
