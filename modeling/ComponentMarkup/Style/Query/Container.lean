import ComponentMarkup.Style.Property
import ComponentMarkup.Style.Query.Condition
import ComponentMarkup.Style.Query.Feature

/-!
# Container queries

## Main definitions

* `Style.ContainerFeature` — what can be asked about a container
* `Style.ContainerQuery` — a container with a condition on it
* `Style.containerOf?` — reads a container query
-/

namespace ComponentMarkup.Style

/-- What can be asked about a container: its size, or the values of its properties. -/
inductive ContainerFeature
  | size (f : Feature)
  | style (c : Condition String)

/-- A question as it is written. -/
def ContainerFeature.text : ContainerFeature → String
  | .size f => f.text
  | .style (.feature declaration) => "style(" ++ declaration ++ ")"
  | .style c => "style(" ++ c.text (fun declaration => "(" ++ declaration ++ ")") ++ ")"

/-- A container, perhaps by its name, with a condition on it. -/
structure ContainerQuery where
  name : Option String
  condition : Option (Condition ContainerFeature)

/-- A container query as it is written. -/
def ContainerQuery.text (q : ContainerQuery) : String :=
  " ".intercalate (q.name.toList ++ (q.condition.map (·.text ContainerFeature.text)).toList)

/-! ### Reading -/

/-- The features of the sizes of containers. -/
def containerFeatures : FeatureTable :=
  (["width", "height", "inline-size", "block-size"].map (·, .length)) ++
  [("aspect-ratio", .ratio), ("orientation", .word)]

/-- A property, perhaps with a value. -/
def styleDeclaration? (parts : List Part) : Option String :=
  match dropGaps parts with
  | .token (.ident name) _ :: rest =>
    match dropGaps rest with
    | .token .colon _ :: value =>
      (valueText? name value).map fun text => propertyName name ++ ":" ++ text
    | [] => some (propertyName name)
    | _ => none
  | _ => none

/-- What a condition on properties is made of. -/
def styleFeature : Part → Option String
  | .block .paren _ inside _ => styleDeclaration? inside
  | _ => none

/-- What a container condition is made of. -/
def containerFeature : Part → Option ContainerFeature
  | .block .paren _ inside _ => (readAll? (feature containerFeatures) inside).map .size
  | .block (.function name) _ inside _ =>
    if lower name == "style" then
      (readAll? (condition styleFeature true) inside).map .style <|>
        (styleDeclaration? inside).map fun d => .style (.feature d)
    else none
  | _ => none

/-- The name of a container. -/
def containerName : Reader String :=
  part fun p => (identOf? p).bind fun name =>
    if isWide name || ["none", "and", "not", "or"].contains (lower name) then none
    else some (identText name)

/-- A container query. -/
def containerOf? (parts : List Part) : Option ContainerQuery :=
  readAll? (do
    let name ← optional containerName
    let c ← optional (condition containerFeature true)
    if name.isNone && c.isNone then failure
    pure ⟨name, c⟩) parts

end ComponentMarkup.Style
