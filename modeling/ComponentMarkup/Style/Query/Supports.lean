import ComponentMarkup.Style.Property
import ComponentMarkup.Style.Query.Condition

/-!
# Conditions on what is supported

## Main definitions

* `Style.Support` — what a condition can ask about
* `Style.supportsText` — the text of a condition
* `Style.supportsOf?` — reads a condition
-/

namespace ComponentMarkup.Style

/-- What a condition can ask about. -/
inductive Support
  /-- A property with a value, as it is written. -/
  | declaration (name value : String)
  /-- Anything else, as it is written. -/
  | other (text : String)

/-- A question as it is written. The name of a property particular to a browser has parentheses of
its own. -/
def Support.text : Support → String
  | .declaration name value =>
    let asked := "(" ++ propertyName name ++ ":" ++ value ++ ")"
    if withoutPrefix (lower name) == lower name then asked else "(" ++ asked ++ ")"
  | .other text => text

/-- A condition as it is written. -/
def supportsText (c : Condition Support) : String := c.text Support.text

/-- A declaration, from what is in the parentheses. -/
def supportDeclaration? (parts : List Part) : Option Support :=
  match dropGaps parts with
  | .token (.ident name) _ :: rest =>
    match dropGaps rest with
    | .token .colon _ :: value =>
      let value := dropGaps value
      if isSound (sourceOf value).length.succ value then
        some (.declaration name (String.ofList (sourceOf value)))
      else none
    | _ => none
  | _ => none

/-- What a condition is made of. -/
def support : Part → Option Support
  | .block bracket opening inside closing =>
    let whole := Part.block bracket opening inside closing
    if bracket == .square || bracket == .curly then none
    else
      (if bracket == .paren then supportDeclaration? inside else none) <|>
      if isSound whole.source.length.succ inside then some (.other (String.ofList whole.source))
      else none
  | _ => none

/-- A condition that takes all parts. -/
def supportsOf? (parts : List Part) : Option (Condition Support) :=
  readAll? (condition support true) parts

end ComponentMarkup.Style
