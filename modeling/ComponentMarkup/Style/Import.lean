import ComponentMarkup.Style.Query.Media
import ComponentMarkup.Style.Query.Supports

/-!
# Imports and namespaces

The rules at the start of a style sheet.

## Main definitions

* `Style.layerNames?` — reads names of layers
* `Style.importText?` — the shortest text of an import
* `Style.namespaceText?` — the shortest text of a namespace
-/

namespace ComponentMarkup.Style

/-! ### Layers -/

/-- The name of a layer: identifiers with points between them, and no blanks. -/
def layerName : Reader String := do
  let first ← ident
  let more ← many (do
    delim '.'
    ident)
  pure (".".intercalate ((first :: more).map identText))

/-- Whether no blank stands beside a point. -/
def isTight : List Part → Bool
  | p :: q :: rest =>
    let point (p : Part) : Bool := match p with
      | .token (.delim '.') _ => true
      | _ => false
    !((p.isBlank && point q) || (point p && q.isBlank)) && isTight (q :: rest)
  | _ => true

/-- Names of layers with commas between them. -/
def layerNames? (parts : List Part) : Option (List String) :=
  if isTight parts then readAll? (commaList layerName) parts else none

/-! ### Imports -/

/-- The layer of an import, with the blank before it. -/
def importLayer : Reader String :=
  (word "layer" *> pure " layer") <|> (fun name => " layer(" ++ name ++ ")") <$>
    function "layer" layerName

/-- The condition of an import, with the blank before it. -/
def importSupports : Reader String :=
  part fun p => match p with
    | .block (.function name) _ inside _ =>
      if lower name != "supports" then none
      else
        match supportsOf? inside with
        | some c => some (" supports(" ++ supportsText c ++ ")")
        | none => (supportDeclaration? inside).map fun d => " supports" ++ d.text
    | _ => none

/-- An import as it is written, from what stands before its semicolon. -/
def importText? (parts : List Part) : Option String :=
  let head : Reader String := do
    let address ← urlOrString
    let layer ← optional importLayer
    let supports ← optional importSupports
    pure ("@import " ++ stringText address ++ layer.getD "" ++ supports.getD "")
  match head.run (significant parts) with
  | some (text, rest) =>
    (mediaOf? rest).map fun queries =>
      text ++ (if queries.isEmpty then "" else " " ++ mediaText queries) ++ ";"
  | none => none

/-! ### Namespaces -/

/-- A namespace as it is written, from what stands before its semicolon. -/
def namespaceText? (parts : List Part) : Option String :=
  readAll? (do
    let name ← optional ident
    let address ← urlOrString
    pure ("@namespace " ++ ((name.map fun n => identText n ++ " ").getD "") ++ stringText address ++
      ";")) parts

end ComponentMarkup.Style
