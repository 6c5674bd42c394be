import ComponentMarkup.Markup.Builder.Head

/-!
# The body of a document

What tags mean in the body: blocks, headings, lists, formatting elements, forms and the elements
with content of their own.

## Main definitions

* `Markup.Builder.startInBody`, `Markup.Builder.endInBody` — the tags
* `Markup.Builder.inBody` — all events
-/

namespace ComponentMarkup.Markup.Builder

open ElementName (impliedEnds headings)

/-- The blocks, which end a paragraph. -/
def blocks : List String :=
  ["address", "article", "aside", "blockquote", "center", "details", "dialog", "dir", "div", "dl",
    "fieldset", "figcaption", "figure", "footer", "header", "hgroup", "main", "menu", "nav", "ol",
    "p", "section", "summary", "ul"]

/-- The formatting elements that may be opened at any place. -/
def formattingTags : List String :=
  ["b", "big", "code", "em", "font", "i", "s", "small", "strike", "strong", "tt", "u"]

/-- The parts of tables and documents that stand alone nowhere in a body. -/
def strayTags : List String :=
  ["caption", "col", "colgroup", "frame", "head", "tbody", "td", "tfoot", "th", "thead", "tr"]

/-- No frameset can follow any more. -/
def settleBody (b : Builder) : Builder := { b with allowsFrameset := false }

/-- Whether an input shows nothing. -/
def isHidden (tag : Tag) : Bool :=
  tag.attributes.any fun a => a.name == "type" && a.value.map Char.toLower == "hidden"

/-- A further body tag adds attributes to the body. -/
def mergeBody (b : Builder) (tag : Tag) : Builder :=
  match b.body? with
  | some body =>
    if b.isOpen "template" then b
    else { b.settleBody with draft := b.draft.addAttributes body tag.attributes }
  | none => b

/-- A frameset takes the place of a body that shows nothing yet. -/
def replaceBody (b : Builder) (tag : Tag) : Builder :=
  match b.allowsFrameset, b.body? with
  | true, some body =>
    let b := { b with draft := b.draft.detach body, stack := b.stack.reverse.take 1 }
    { b.insert tag with mode := .inFrameset }
  | _, _ => b

/-- A form; forms do not nest. -/
def startForm (b : Builder) (tag : Tag) : Builder :=
  let isInTemplate := b.isOpen "template"
  if b.form.isSome && !isInTemplate then b
  else
    let (b, n) := b.endParagraph.openChild ⟨.html, tag.name⟩ tag.attributes
    if isInTemplate then b else { b with form := some n }

/-- The open list item that a further one ends. -/
def openItem (b : Builder) (names : List String) : List Nat → Option String
  | [] => none
  | n :: rest =>
    let name := b.name n
    if name.isOneOf names then some name.name
    else if name.isSpecial && !name.isOneOf ["address", "div", "p"] then none
    else b.openItem names rest

/-- An item of a list. -/
def startItem (b : Builder) (tag : Tag) : Builder :=
  let names := if tag.name == "li" then ["li"] else ["dd", "dt"]
  let b := b.settleBody
  let b := match b.openItem names b.stack with
    | some name => (b.closeImplied (impliedExcept name)).close name
    | none => b
  b.endParagraph.insert tag

/-- A link ends the link it stands in. -/
def startLink (b : Builder) (tag : Tag) : Builder :=
  let b := match b.freshFormatting.find? fun (n, _) => (b.name n).isHtml "a" with
    | some (n, _) => ((b.adopt "a").dropFormatting n).unstack n
    | none => b
  b.reopenFormatting.insertFormatting tag

/-- An element of a drawing or a formula. -/
def startForeign (b : Builder) (space : Space) (name : String) (tag : Tag) : Builder :=
  let attrs := adjustAttributes space tag.attributes
  if tag.isSelfClosing then (b.addChild ⟨space, name⟩ attrs).1
  else (b.openChild ⟨space, name⟩ attrs).1

/-- A start tag in the body. -/
def startInBody (b : Builder) (tag : Tag) : Builder :=
  let tag := if tag.name == "image" then { tag with name := "img" } else tag
  let is (names : List String) : Bool := names.contains tag.name
  if tag.name == "html" then b.mergeRoot tag
  else if is headTags then b.startInHead tag
  else if tag.name == "body" then b.mergeBody tag
  else if tag.name == "frameset" then b.replaceBody tag
  else if is blocks then b.endParagraph.insert tag
  else if is headings then
    let b := b.endParagraph
    (if b.currentName.isOneOf headings then b.pop else b).insert tag
  else if is ["pre", "listing"] then
    { (b.endParagraph.insert tag).settleBody with skipsNewline := true }
  else if tag.name == "form" then b.startForm tag
  else if is ["li", "dd", "dt"] then b.startItem tag
  else if tag.name == "plaintext" then { b.endParagraph.insert tag with scan := .plain }
  else if tag.name == "button" then
    let b := if b.inScope (·.boundsScope) "button" then
        (b.closeImplied impliedEnds).close "button"
      else b
    (b.reopenFormatting.insert tag).settleBody
  else if tag.name == "a" then b.startLink tag
  else if is formattingTags then b.reopenFormatting.insertFormatting tag
  else if tag.name == "nobr" then
    let b := b.reopenFormatting
    let b := if b.inScope (·.boundsScope) "nobr" then (b.adopt "nobr").reopenFormatting else b
    b.insertFormatting tag
  else if is ["applet", "marquee", "object"] then
    (b.reopenFormatting.insert tag).markFormatting.settleBody
  else if tag.name == "table" then
    let b := if b.isQuirky then b else b.endParagraph
    { (b.insert tag).settleBody with mode := .inTable }
  else if is ["area", "br", "embed", "img", "keygen", "wbr"] then
    (b.reopenFormatting.insertVoid tag).settleBody
  else if tag.name == "input" then
    let b := b.reopenFormatting.insertVoid tag
    if isHidden tag then b else b.settleBody
  else if is ["param", "source", "track"] then b.insertVoid tag
  else if tag.name == "hr" then (b.endParagraph.insertVoid tag).settleBody
  else if tag.name == "textarea" then
    { (b.insertRaw tag (referencesScan tag)).settleBody with skipsNewline := true }
  else if tag.name == "xmp" then
    (b.endParagraph.reopenFormatting.insertRaw tag (rawScan tag)).settleBody
  else if tag.name == "iframe" then (b.insertRaw tag (rawScan tag)).settleBody
  else if is ["noembed", "noscript"] then b.insertRaw tag (rawScan tag)
  else if tag.name == "select" then
    let inTable := [Mode.inTable, .inCaption, .inTableBody, .inRow, .inCell].contains b.mode
    { (b.reopenFormatting.insert tag).settleBody with
      mode := if inTable then .inSelectInTable else .inSelect }
  else if is ["optgroup", "option"] then
    (if b.isAt "option" then b.pop else b).reopenFormatting.insert tag
  else if is ["rb", "rtc"] then
    (if b.inScope (·.boundsScope) "ruby" then b.closeImplied impliedEnds else b).insert tag
  else if is ["rp", "rt"] then
    (if b.inScope (·.boundsScope) "ruby" then b.closeImplied (impliedExcept "rtc") else b).insert tag
  else if tag.name == "math" then b.reopenFormatting.startForeign .math "math" tag
  else if tag.name == "svg" then b.reopenFormatting.startForeign .svg "svg" tag
  else if is strayTags then b
  else b.reopenFormatting.insert tag

/-- The end tag of a form. -/
def endForm (b : Builder) : Builder :=
  if b.isOpen "template" then
    if b.inScope (·.boundsScope) "form" then (b.closeImplied impliedEnds).close "form" else b
  else
    match b.form with
    | none => b
    | some form =>
      let b := { b with form := none }
      if b.scopeSearch (·.boundsScope) (· == form) b.stack then
        (b.closeImplied impliedEnds).unstack form
      else b

/-- An end tag in the body, but for that of the root. -/
def endInBody (b : Builder) (tag : Tag) : Builder :=
  let is (names : List String) : Bool := names.contains tag.name
  let isHere := b.inScope (·.boundsScope) tag.name
  if tag.name == "template" then b.endTemplate
  else if tag.name == "body" then if isHere then { b with mode := .afterBody } else b
  else if tag.name == "form" then b.endForm
  else if tag.name == "p" then
    (if b.inScope (·.boundsButtonScope) "p" then b else b.insertImplied "p").closeParagraph
  else if is blocks || is ["button", "listing", "pre"] then
    if isHere then (b.closeImplied impliedEnds).close tag.name else b
  else if is ["li", "dd", "dt"] then
    let bounds : ElementName → Bool :=
      if tag.name == "li" then (·.boundsListScope) else (·.boundsScope)
    if b.inScope bounds tag.name then (b.closeImplied (impliedExcept tag.name)).close tag.name
    else b
  else if is headings then
    if b.inScopeWhere (·.boundsScope) (·.isOneOf headings) then
      (b.closeImplied impliedEnds).popThrough (·.isOneOf headings)
    else b
  else if is formattingTags || is ["a", "nobr"] then b.adopt tag.name
  else if is ["applet", "marquee", "object"] then
    if isHere then ((b.closeImplied impliedEnds).close tag.name).clearFormatting else b
  else if tag.name == "br" then b.startInBody { tag with attributes := [] }
  else b.closeGeneric tag.name

/-- The end of the markup inside of a template closes the template. -/
def finishTemplate (b : Builder) : Verdict :=
  if b.isOpen "template" then
    let b := (b.close "template").clearFormatting
    .again { b with templateModes := b.templateModes.drop 1 }.resetMode
  else .done b

/-- In the body. -/
def inBody (b : Builder) (e : Event) : Verdict :=
  match e with
  | .zero => .done b
  | .blank text => .done (b.reopenFormatting.appendText text)
  | .words text => .done (b.reopenFormatting.appendText text).settleBody
  | .comment value => .done (b.appendComment value)
  | .startTag tag => .done (b.startInBody tag)
  | .endTag tag =>
    if tag.name == "html" then
      if b.inScope (·.boundsScope) "body" then .again { b with mode := .afterBody } else .done b
    else .done (b.endInBody tag)
  | .finish => if b.templateModes.isEmpty then .done b else b.finishTemplate

/-- In the body, with content put before the table around. -/
def inBodyFostered (b : Builder) (e : Event) : Verdict :=
  ({ b with fosters := true }.inBody e).map fun b => { b with fosters := false }

end ComponentMarkup.Markup.Builder
