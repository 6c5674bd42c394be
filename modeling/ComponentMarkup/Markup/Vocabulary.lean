import ComponentMarkup.Markup.Tag

/-!
# The vocabulary of markup

Elements belong to one of three name spaces. Which elements end others, which of them bound a
search and which attributes are written in mixed case is laid down here.

## Main definitions

* `Markup.Space` — the name spaces
* `Markup.ElementName` — a name in its space, with the sets of names that the rules speak of
* `Markup.adjustSvgName`, `Markup.adjustAttributes` — names written in mixed case
* `Markup.isQuirky` — document types that ask for the old layout rules
-/

namespace ComponentMarkup.Markup

/-- The name spaces of elements. -/
inductive Space
  | html
  | svg
  | math
  deriving DecidableEq

/-- The name of an element in its space. -/
structure ElementName where
  space : Space
  name : String
  deriving DecidableEq

namespace ElementName

/-- Whether the element is the HTML element of the name. -/
def isHtml (e : ElementName) (name : String) : Bool := e.space == .html && e.name == name

/-- Whether the element is one of the HTML elements. -/
def isOneOf (e : ElementName) (names : List String) : Bool :=
  e.space == .html && names.contains e.name

/-- Elements of mathematics that hold text. -/
def isMathText (e : ElementName) : Bool :=
  e.space == .math && ["mi", "mo", "mn", "ms", "mtext"].contains e.name

/-- Elements of drawings that hold HTML. -/
def isHtmlIsland (e : ElementName) : Bool :=
  e.space == .svg && ["foreignObject", "desc", "title"].contains e.name

/-! ### Bounds of searches -/

/-- The elements that bound a search in general. -/
def boundsScope (e : ElementName) : Bool :=
  e.isOneOf ["applet", "caption", "html", "table", "td", "th", "marquee", "object", "template"] ||
    e.isMathText || e.isHtmlIsland

/-- The bounds of a search for list items. -/
def boundsListScope (e : ElementName) : Bool := e.boundsScope || e.isOneOf ["ol", "ul"]

/-- The bounds of a search for paragraphs. -/
def boundsButtonScope (e : ElementName) : Bool := e.boundsScope || e.isHtml "button"

/-- The bounds of a search for parts of tables. -/
def boundsTableScope (e : ElementName) : Bool := e.isOneOf ["html", "table", "template"]

/-- The bounds of a search for a selection. -/
def boundsSelectScope (e : ElementName) : Bool := !e.isOneOf ["optgroup", "option"]

/-! ### Sets of names -/

/-- The elements whose end tag may be left out. -/
def impliedEnds : List String := ["dd", "dt", "li", "option", "optgroup", "p", "rb", "rp", "rt", "rtc"]

/-- The elements that the end of a template closes as well. -/
def thoroughEnds : List String :=
  impliedEnds ++ ["caption", "colgroup", "tbody", "td", "tfoot", "th", "thead", "tr"]

/-- The headings. -/
def headings : List String := ["h1", "h2", "h3", "h4", "h5", "h6"]

/-- The elements with a role of their own in the structure of a document. -/
def isSpecial (e : ElementName) : Bool :=
  e.isOneOf ["address", "applet", "area", "article", "aside", "base", "basefont", "bgsound",
    "blockquote", "body", "br", "button", "caption", "center", "col", "colgroup", "dd", "details",
    "dir", "div", "dl", "dt", "embed", "fieldset", "figcaption", "figure", "footer", "form",
    "frame", "frameset", "h1", "h2", "h3", "h4", "h5", "h6", "head", "header", "hgroup", "hr",
    "html", "iframe", "img", "input", "isindex", "li", "link", "listing", "main", "marquee",
    "menu", "meta", "nav", "noembed", "noframes", "noscript", "object", "ol", "p", "param",
    "plaintext", "pre", "script", "section", "select", "source", "style", "summary", "table",
    "tbody", "td", "template", "textarea", "tfoot", "th", "thead", "title", "tr", "track", "ul",
    "wbr", "xmp"]

end ElementName

/-- The tags that end a drawing or a formula. -/
def breaksOut (tag : Tag) : Bool :=
  ["b", "big", "blockquote", "body", "br", "center", "code", "dd", "div", "dl", "dt", "em",
    "embed", "h1", "h2", "h3", "h4", "h5", "h6", "head", "hr", "i", "img", "li", "listing", "menu",
    "meta", "nobr", "ol", "p", "pre", "ruby", "s", "small", "span", "strong", "strike", "sub",
    "sup", "table", "tt", "u", "ul", "var"].contains tag.name ||
  (tag.name == "font" && tag.attributes.any fun a => ["color", "face", "size"].contains a.name)

/-! ### Mixed case -/

/-- The names of elements of drawings that have capitals. -/
def svgNames : List String :=
  ["altGlyph", "altGlyphDef", "altGlyphItem", "animateColor", "animateMotion", "animateTransform",
    "clipPath", "feBlend", "feColorMatrix", "feComponentTransfer", "feComposite",
    "feConvolveMatrix", "feDiffuseLighting", "feDisplacementMap", "feDistantLight", "feDropShadow",
    "feFlood", "feFuncA", "feFuncB", "feFuncG", "feFuncR", "feGaussianBlur", "feImage", "feMerge",
    "feMergeNode", "feMorphology", "feOffset", "fePointLight", "feSpecularLighting", "feSpotLight",
    "feTile", "feTurbulence", "foreignObject", "glyphRef", "linearGradient", "radialGradient",
    "textPath"]

/-- The names of attributes of drawings that have capitals. -/
def svgAttributes : List String :=
  ["attributeName", "attributeType", "baseFrequency", "baseProfile", "calcMode", "clipPathUnits",
    "diffuseConstant", "edgeMode", "filterUnits", "glyphRef", "gradientTransform", "gradientUnits",
    "kernelMatrix", "kernelUnitLength", "keyPoints", "keySplines", "keyTimes", "lengthAdjust",
    "limitingConeAngle", "markerHeight", "markerUnits", "markerWidth", "maskContentUnits",
    "maskUnits", "numOctaves", "pathLength", "patternContentUnits", "patternTransform",
    "patternUnits", "pointsAtX", "pointsAtY", "pointsAtZ", "preserveAlpha", "preserveAspectRatio",
    "primitiveUnits", "refX", "refY", "repeatCount", "repeatDur", "requiredExtensions",
    "requiredFeatures", "specularConstant", "specularExponent", "spreadMethod", "startOffset",
    "stdDeviation", "stitchTiles", "surfaceScale", "systemLanguage", "tableValues", "targetX",
    "targetY", "textLength", "viewBox", "viewTarget", "xChannelSelector", "yChannelSelector",
    "zoomAndPan"]

/-- The spelling of a name in a list that is searched without regard to case. -/
def spelling (names : List String) (name : String) : String :=
  (names.find? fun n => n.map Char.toLower == name).getD name

/-- The name of an element of a drawing. -/
def adjustSvgName (name : String) : String := spelling svgNames name

/-- The attributes of an element, spelled as its space asks. -/
def adjustAttributes (space : Space) (attrs : List Attribute) : List Attribute :=
  match space with
  | .html => attrs
  | .svg => attrs.map fun a => { a with name := spelling svgAttributes a.name }
  | .math => attrs.map fun a => { a with name := spelling ["definitionURL"] a.name }

/-! ### Document types -/

/-- Public identifiers that ask for the old rules. -/
def quirkyPublicIds : List String :=
  ["-//w3o//dtd w3 html strict 3.0//en//", "-/w3c/dtd html 4.0 transitional/en", "html"]

/-- Beginnings of public identifiers that ask for the old rules. -/
def quirkyPublicStarts : List String :=
  ["+//silmaril//dtd html pro v0r11 19970101//", "-//advasoft ltd//dtd html 3.0 aswedit + extensions//",
    "-//as//dtd html 3.0 aswedit + extensions//", "-//ietf//dtd html 2.0 level 1//",
    "-//ietf//dtd html 2.0 level 2//", "-//ietf//dtd html 2.0 strict level 1//",
    "-//ietf//dtd html 2.0 strict level 2//", "-//ietf//dtd html 2.0 strict//",
    "-//ietf//dtd html 2.0//", "-//ietf//dtd html 2.1e//", "-//ietf//dtd html 3.0//",
    "-//ietf//dtd html 3.2 final//", "-//ietf//dtd html 3.2//", "-//ietf//dtd html 3//",
    "-//ietf//dtd html level 0//", "-//ietf//dtd html level 1//", "-//ietf//dtd html level 2//",
    "-//ietf//dtd html level 3//", "-//ietf//dtd html strict level 0//",
    "-//ietf//dtd html strict level 1//", "-//ietf//dtd html strict level 2//",
    "-//ietf//dtd html strict level 3//", "-//ietf//dtd html strict//", "-//ietf//dtd html//",
    "-//metrius//dtd metrius presentational//",
    "-//microsoft//dtd internet explorer 2.0 html strict//",
    "-//microsoft//dtd internet explorer 2.0 html//",
    "-//microsoft//dtd internet explorer 2.0 tables//",
    "-//microsoft//dtd internet explorer 3.0 html strict//",
    "-//microsoft//dtd internet explorer 3.0 html//",
    "-//microsoft//dtd internet explorer 3.0 tables//", "-//netscape comm. corp.//dtd html//",
    "-//netscape comm. corp.//dtd strict html//", "-//o'reilly and associates//dtd html 2.0//",
    "-//o'reilly and associates//dtd html extended 1.0//",
    "-//o'reilly and associates//dtd html extended relaxed 1.0//",
    "-//softquad software//dtd hotmetal pro 6.0::19990601::extensions to html 4.0//",
    "-//softquad//dtd hotmetal pro 4.0::19971010::extensions to html 4.0//",
    "-//spyglass//dtd html 2.0 extended//", "-//sq//dtd html 2.0 hotmetal + extensions//",
    "-//sun microsystems corp.//dtd hotjava html//",
    "-//sun microsystems corp.//dtd hotjava strict html//", "-//w3c//dtd html 3 1995-03-24//",
    "-//w3c//dtd html 3.2 draft//", "-//w3c//dtd html 3.2 final//", "-//w3c//dtd html 3.2//",
    "-//w3c//dtd html 3.2s draft//", "-//w3c//dtd html 4.0 frameset//",
    "-//w3c//dtd html 4.0 transitional//", "-//w3c//dtd html experimental 19960712//",
    "-//w3c//dtd html experimental 970421//", "-//w3c//dtd w3 html//", "-//w3o//dtd w3 html 3.0//",
    "-//webtechs//dtd mozilla html 2.0//", "-//webtechs//dtd mozilla html//"]

/-- Beginnings of public identifiers that ask for the old rules if no system identifier follows. -/
def looseQuirkyStarts : List String :=
  ["-//w3c//dtd html 4.01 frameset//", "-//w3c//dtd html 4.01 transitional//"]

/-- Whether a document type asks for the old layout rules. -/
def isQuirky (isMalformed : Bool) (name : String) (publicId systemId : Option String) : Bool :=
  let lower (s : String) := s.map Char.toLower
  let startsLike (starts : List String) (s : String) := starts.any fun start => (lower s).startsWith start
  isMalformed || name != "html" ||
    publicId.any (fun p => quirkyPublicIds.contains (lower p)) ||
    systemId.any (fun s => (lower s).endsWith "/data/dtd/v11/ibmxhtml1-transitional.dtd") ||
    publicId.any (startsLike quirkyPublicStarts) ||
    (systemId.isNone && publicId.any (startsLike looseQuirkyStarts))

end ComponentMarkup.Markup
