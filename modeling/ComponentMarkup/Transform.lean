import ComponentMarkup.Error
import ComponentMarkup.Markup.Node
import ComponentMarkup.Style.Scope

/-!
# Content transforms

`webc:type` names transforms that an element's content goes through. Two of them are always there:
`css:scoped` confines a style sheet to the component, and `render` runs a script for its markup,
which is not a matter of texts and left to rendering.

## Main definitions

* `Transform` — a function of texts that may fail
* `transformTypes` — the transforms that an element asks for
* `applyTransforms` — the content after its transforms
-/

namespace ComponentMarkup

/-- A function of texts that may fail with a reason. -/
abbrev Transform := String → Except String String

/-- The transform that confines a style sheet. -/
def scopedType : String := "css:scoped"

/-- The transform that runs a script. -/
def renderType : String := "render"

/-- The names in a list that commas and blanks separate. -/
def typeNames (text : String) : List String :=
  ((splitWhere (fun c => c == ',' || isBlank c) text.toList).filter (!·.isEmpty)).map String.ofList

/-- The transforms that an element asks for, in order. A scoped style sheet is confined first
unless it says when. -/
def transformTypes (n : Markup.Node) : List String :=
  let types := ((n.attribute? "webc:type").map typeNames).getD []
  if n.hasTag "style" && n.hasAttribute "webc:scoped" && !types.contains scopedType then
    scopedType :: types
  else types

/-- Whether an element's script gives its markup. -/
def isRenderType (types : List String) : Bool := types.contains renderType

/-- A style sheet confined to a scope, that of its own text if none is given. -/
def confine (scopeId : Option String) : Transform := fun content =>
  Style.scopeSheet (scopeId.getD (Style.derivedScopeId content)) content

/-- The transform of a name. -/
def transform? (scopeId : Option String) (transforms : Entries Transform) (name : String) :
    Option Transform :=
  if name == renderType then some .ok
  else if name == scopedType then some (confine scopeId)
  else transforms.get? name

/-- The content after one transform. -/
def applyTransform (scopeId : Option String) (transforms : Entries Transform) (file content : String)
    (name : String) : Compiled String :=
  match transform? scopeId transforms name with
  | some f => (f content).mapError fun reason => .transform name reason file
  | none => .error (.unknownTransform name file)

/-- The content after its transforms, in order. -/
def applyTransforms (types : List String) (content : String) (scopeId : Option String)
    (transforms : Entries Transform) (file : String) : Compiled String :=
  types.foldlM (applyTransform scopeId transforms file) content

end ComponentMarkup
