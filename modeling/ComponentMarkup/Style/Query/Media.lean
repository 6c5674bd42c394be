import ComponentMarkup.Style.Query.Condition
import ComponentMarkup.Style.Query.Feature

/-!
# Media queries

Which media some rules are for.

## Main definitions

* `Style.MediaQuery` — a medium with a condition on its features
* `Style.mediaText` — the text of media queries
* `Style.alwaysMatches` — whether all media are meant
* `Style.mediaOf?` — reads media queries
-/

namespace ComponentMarkup.Style

/-- A medium with a condition on its features. -/
structure MediaQuery where
  /-- The word `not` or `only`. -/
  qualifier : Option String
  /-- The kind of medium. -/
  medium : String
  condition : Option (Condition Feature)

namespace MediaQuery

/-- Whether a query is for all media. -/
def isForAll (q : MediaQuery) : Bool :=
  q.qualifier.isNone && q.medium == "all" && q.condition.isNone

/-- A condition after a medium. -/
def conditionText (c : Condition Feature) : String :=
  let text := c.text Feature.text
  match c with
  | .joined false _ => "(" ++ text ++ ")"
  | _ => text

/-- A media query as it is written. -/
def text (q : MediaQuery) : String :=
  match q.qualifier, q.condition with
  | none, none => q.medium
  | none, some c =>
    if q.medium == "all" then c.text Feature.text else q.medium ++ " and " ++ conditionText c
  | some word, none => word ++ " " ++ q.medium
  | some word, some c => word ++ " " ++ q.medium ++ " and " ++ conditionText c

end MediaQuery

/-- Media queries as they are written. -/
def mediaText (queries : List MediaQuery) : String :=
  if queries.isEmpty then "not all" else ",".intercalate (queries.map MediaQuery.text)

/-- Whether all media are meant. -/
def alwaysMatches (queries : List MediaQuery) : Bool := queries.all MediaQuery.isForAll

/-! ### Reading -/

/-- The features of media. -/
def mediaFeatures : FeatureTable :=
  (["width", "height", "device-width", "device-height"].map (·, .length)) ++
  (["aspect-ratio", "device-aspect-ratio"].map (·, .ratio)) ++
  (["color", "color-index", "monochrome", "horizontal-viewport-segments",
    "vertical-viewport-segments"].map (·, .integer)) ++
  (["-webkit-device-pixel-ratio", "-moz-device-pixel-ratio"].map (·, .number)) ++
  [("resolution", .resolution), ("grid", .flag)] ++
  (["orientation", "overflow-block", "overflow-inline", "display-mode", "scan", "update",
    "environment-blending", "color-gamut", "dynamic-range", "inverted-colors", "pointer", "hover",
    "any-pointer", "any-hover", "nav-controls", "video-color-gamut", "video-dynamic-range",
    "scripting", "prefers-reduced-motion", "prefers-reduced-transparency", "prefers-contrast",
    "forced-colors", "prefers-color-scheme", "prefers-reduced-data"].map (·, .word))

/-- What a media condition is made of. -/
def mediaFeature : Part → Option Feature
  | .block .paren _ inside _ => readAll? (feature mediaFeatures) inside
  | _ => none

/-- A kind of medium. -/
def medium : Reader String := do
  let name ← ident
  pure (if ["all", "print", "screen"].contains (lower name) then lower name else name)

/-- A kind of medium, with the word before it if there is one. -/
def qualifiedMedium : Reader (Option String × String) := do
  let qualifier ← optional (keyword ["not", "only"])
  pure (qualifier, ← medium)

/-- A media query. -/
def mediaQuery : Reader MediaQuery := do
  match ← optional qualifiedMedium with
  | some (qualifier, kind) =>
    match ← optional (word "and") with
    | some _ => pure ⟨qualifier, kind, some (← condition mediaFeature false)⟩
    | none => pure ⟨qualifier, kind, none⟩
  | none => pure ⟨none, "all", some (← condition mediaFeature true)⟩

/-- Media queries with commas between them; there may be none. -/
def mediaOf? (parts : List Part) : Option (List MediaQuery) :=
  if (significant parts).isEmpty then some []
  else (parts.splitOnP Part.isComma).mapM (readAll? mediaQuery)

end ComponentMarkup.Style
