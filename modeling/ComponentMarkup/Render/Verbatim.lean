import ComponentMarkup.Attribute

/-!
# Verbatim markup

Markup written as it was parsed: no directive is followed and no component is looked up.

## Main definitions

* `renderText`, `renderDoctype`, `renderComment` — nodes that are no elements
* `verbatimStartTag`, `endTag` — tags as they were written
-/

namespace ComponentMarkup

/-- A text in markup. -/
def renderText (rawText : Bool) (text : String) : String := if rawText then text else escapeText text

/-- A document type in markup. -/
def renderDoctype (name : String) : String := "<!doctype " ++ name ++ ">"

/-- A comment in markup. -/
def renderComment (text : String) : String := "<!--" ++ text ++ "-->"

/-- An end tag. -/
def endTag (tag : String) : String := "</" ++ tag ++ ">"

/-- An attribute as it was written. -/
def verbatimAttribute (a : Markup.Attribute) : String :=
  if a.value == "" then " " ++ a.name else " " ++ a.name ++ "=\"" ++ escapeAttribute a.value ++ "\""

/-- A start tag as it was written. -/
def verbatimStartTag (tag : String) (attributes : List Markup.Attribute) : String :=
  "<" ++ tag ++ String.join (attributes.map verbatimAttribute) ++ ">"

end ComponentMarkup
