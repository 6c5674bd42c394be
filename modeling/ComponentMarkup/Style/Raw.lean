import ComponentMarkup.Style.Color

/-!
# Values that are not understood

Values of unknown properties, values with variables, and whatever else is kept as it is: written
with as few blanks as their tokens allow, with colors and units in their shortest forms.

## Main definitions

* `Style.tokenText` — a token
* `Style.rawText?` — the text of parts; none if a token is broken
* `Style.verbatimText?` — the text of parts with all blanks
-/

namespace ComponentMarkup.Style

/-! ### Tokens -/

/-- A number with a unit. Lengths, angles, times and resolutions are understood. -/
def unitValueText (value : Float32) (unit : String) : String :=
  let name := lower unit
  if lengthUnits.contains name then dimensionText value name
  else if angleUnits.contains name then angleText value name
  else if name == "s" then timeText value true
  else if name == "ms" then timeText value false
  else if ["dpi", "dpcm", "dppx", "x"].contains name then resolutionText value name
  else dimensionText value unit

/-- A token as it is written anywhere. -/
def tokenText : Token → String
  | .ident name => identText name
  | .atKeyword name => "@" ++ identText name
  | .hash name _ => "#" ++ nameText name
  | .string value => stringText value
  | .url address => urlText address
  | .number n => n.text
  | .percentage n => n.text ++ "%"
  | .dimension n unit => n.text ++ unitText unit
  | .function name => identText name ++ "("
  | .delim c => c.toString
  | .matcher c => c.toString ++ "="
  | .colon => ":"
  | .semicolon => ";"
  | .comma => ","
  | .blank => " "
  | .comment => ""
  | .openParen => "("
  | .openSquare => "["
  | .openCurly => "\x7b"
  | .closeParen => ")"
  | .closeSquare => "]"
  | .closeCurly => "\x7d"
  | .commentOpen => "<!--"
  | .commentClose => "-->"
  | .broken => ""

/-- A token in a value. -/
def valueTokenText : Token → String
  | .hash name isId =>
    match hashColor? name with
    | some c => c.text
    | none => tokenText (.hash name isId)
  | .number n => numberText n.value
  | .dimension n unit => unitValueText n.value unit
  | .delim c => if c == '+' || c == '-' then " " ++ c.toString ++ " " else c.toString
  | t => tokenText t

/-- How a block is written around its text. -/
def bracketText (bracket : Bracket) (text : String) : String :=
  match bracket with
  | .paren => "(" ++ text ++ ")"
  | .square => "[" ++ text ++ "]"
  | .curly => "\x7b" ++ text ++ "\x7d"
  | .function name => identText name ++ "(" ++ text ++ ")"

/-! ### Values -/

/-- What has been written of a value: the texts, the last one first, with none for a blank, and
whether the last one needs no blank after it. -/
structure RawText where
  texts : List (Option String) := []
  endsTight : Bool := false

namespace RawText

/-- Whether the last text is a blank. -/
def endsBlank (r : RawText) : Bool := r.texts.head? == some none

/-- Adds a text. -/
def add (r : RawText) (text : String) (endsTight : Bool) : RawText := ⟨some text :: r.texts, endsTight⟩

/-- Adds a blank, where one is needed. -/
def addBlank (r : RawText) : RawText :=
  if r.endsTight || r.endsBlank then r else { r with texts := none :: r.texts }

/-- Adds a separator, which takes the place of a blank before it. -/
def addTight (r : RawText) (text : String) : RawText :=
  ⟨some text :: (if r.endsBlank then r.texts.drop 1 else r.texts), true⟩

/-- Adds a token. -/
def addToken (r : RawText) (t : Token) : RawText :=
  match t with
  | .blank => r.addBlank
  | .comment => r.addBlank
  | .delim _ => r.addTight (valueTokenText t)
  | .comma => r.addTight ","
  | t => r.add (valueTokenText t) false

/-- The texts in order. -/
def join (texts : List (Option String)) : String :=
  String.join (texts.reverse.map (·.getD " "))

/-- The text between the first and the last bracket of a block. -/
def inner (r : RawText) : String := join r.texts

/-- The text of a whole value: without blanks at its ends, if there is something else. -/
def text (r : RawText) : String :=
  if r.texts.length < 2 then join r.texts
  else
    let started := if r.texts.head? == some none then r.texts.drop 1 else r.texts
    join (if started.getLast? == some none then started.dropLast else started)

end RawText

/-- Names of areas that the surroundings know. -/
def environmentNames : List String :=
  ["safe-area-inset-top", "safe-area-inset-right", "safe-area-inset-bottom",
    "safe-area-inset-left", "viewport-segment-width", "viewport-segment-height",
    "viewport-segment-top", "viewport-segment-left", "viewport-segment-bottom",
    "viewport-segment-right"]

/-- The name of a variable of the surroundings. -/
def environmentName (name : String) : String :=
  if environmentNames.contains (lower name) then lower name else identText name

mutual

/-- Adds parts to a value. -/
def rawParts (r : RawText) : List Part → Option RawText
  | [] => some r
  | p :: ps =>
    match rawPart r p with
    | some r => rawParts r ps
    | none => none
termination_by structural ps => ps

/-- Adds a part to a value. -/
def rawPart (r : RawText) : Part → Option RawText
  | .token t text => if (Part.token t text).isBroken then none else some (r.addToken t)
  | .block (.function name) opening parts closing =>
    let whole := [Part.block (.function name) opening parts closing]
    match readAll? color whole with
    | some text => some (r.add text false)
    | none =>
      if lower name == "url" then (readAll? url whole).map fun address => r.add (urlText address) false
      else if lower name == "var" then (rawVariable parts).map fun text => r.add text true
      else if lower name == "env" then (rawEnvironment parts).map fun text => r.add text true
      else (rawParts {} parts).map fun inside =>
        r.add (bracketText (.function name) inside.text) true
  | .block bracket _ parts _ =>
    (rawParts {} parts).map fun inside => r.add (bracketText bracket inside.inner) true
termination_by structural p => p

/-- The text of a variable, from its arguments: its name, and a value to use instead. -/
def rawVariable : List Part → Option String
  | [] => none
  | p :: ps =>
    if p.isGap then rawVariable ps
    else match identOf? p with
      | some name =>
        if name.toList.take 2 == ['-', '-'] then
          (rawFallback ps).map fun text => "var(" ++ identText name ++ text ++ ")"
        else none
      | none => none
termination_by structural ps => ps

/-- The text of a variable of the surroundings, from its arguments. -/
def rawEnvironment : List Part → Option String
  | [] => none
  | p :: ps =>
    if p.isGap then rawEnvironment ps
    else match identOf? p with
      | some name =>
        (rawIndices ps).map fun text => "env(" ++ environmentName name ++ text ++ ")"
      | none => none
termination_by structural ps => ps

/-- The indices of a variable of the surroundings, and what follows them. -/
def rawIndices : List Part → Option String
  | [] => some ""
  | p :: ps =>
    if p.isGap then rawIndices ps
    else match p with
      | .token (.number n) _ =>
        n.integer.bind fun i => (rawIndices ps).map fun text => " " ++ toString i ++ text
      | p => if p.isComma then (rawParts {} ps).map fun r => "," ++ r.text else none
termination_by structural ps => ps

/-- The value to use instead of a variable, with the comma before it. -/
def rawFallback : List Part → Option String
  | [] => some ""
  | p :: ps =>
    if p.isGap then rawFallback ps
    else if p.isComma then (rawParts {} ps).map fun r => "," ++ r.text
    else none
termination_by structural ps => ps

end

/-- The text of parts; none if a token is broken. -/
def rawText? (parts : List Part) : Option String := (rawParts {} parts).map RawText.text

/-! ### Verbatim values -/

mutual

/-- The text of parts with all blanks and comments as they are; none if a token is broken. -/
def verbatimText? : List Part → Option String
  | [] => some ""
  | p :: ps =>
    match verbatimPart? p, verbatimText? ps with
    | some text, some more => some (text ++ more)
    | _, _ => none
termination_by structural ps => ps

/-- The text of a part with all blanks and comments as they are. -/
def verbatimPart? : Part → Option String
  | .token t text =>
    if (Part.token t text).isBroken then none
    else if (Part.token t text).isGap then some (String.ofList text)
    else some (tokenText t)
  | .block bracket _ parts _ => (verbatimText? parts).map (bracketText bracket)
termination_by structural p => p

end

end ComponentMarkup.Style
