import ComponentMarkup.Markup.Builder

/-!
# The start of a document

What happens up to the body: the root element, the head and what may stand in it.

## Main definitions

* `Markup.Verdict` — whether an event is settled or has to be looked at again in another mode
* `Markup.Builder.startInHead`, `Markup.Builder.endTemplate` — tags that mean the same everywhere
* `Markup.Builder.beforeBody` — the modes up to the body
-/

namespace ComponentMarkup.Markup

/-- What came of an event: it is settled, or the rules of the new mode apply to it. -/
inductive Verdict
  | done (b : Builder)
  | again (b : Builder)

/-- The tree under construction after an event. -/
def Verdict.builder : Verdict → Builder
  | done b => b
  | again b => b

/-- Applies a change to the tree. -/
def Verdict.map (f : Builder → Builder) : Verdict → Verdict
  | done b => done (f b)
  | again b => again (f b)

namespace Builder

/-- The start tags whose meaning is that of the head wherever they stand. -/
def headTags : List String :=
  ["base", "basefont", "bgsound", "link", "meta", "noframes", "script", "style", "template",
    "title"]

/-- Reads the content of the tag's element up to its end tag. -/
def rawScan (tag : Tag) : Scan := .raw tag.name.toList

/-- Reads the content of the tag's element up to its end tag, with references. -/
def referencesScan (tag : Tag) : Scan := .references tag.name.toList

/-- A start tag with its meaning in the head. -/
def startInHead (b : Builder) (tag : Tag) : Builder :=
  match tag.name with
  | "title" => b.insertRaw tag (referencesScan tag)
  | "script" => b.insertRaw tag .script
  | "style" | "noframes" | "noscript" => b.insertRaw tag (rawScan tag)
  | "template" =>
    { (b.insert tag).markFormatting with
      allowsFrameset := false
      mode := .inTemplate
      templateModes := .inTemplate :: b.templateModes }
  | _ => b.insertVoid tag

/-- The end tag of a template. -/
def endTemplate (b : Builder) : Builder :=
  if b.isOpen "template" then
    let b := ((b.closeImplied ElementName.thoroughEnds).close "template").clearFormatting
    { b with templateModes := b.templateModes.drop 1 }.resetMode
  else b

/-- Whether an end tag has to be looked at although its element is not open. -/
def isLateEnd (name : String) : Bool := name == "body" || name == "html" || name == "br"

/-- Before anything but comments and a document type. -/
def initial (b : Builder) (e : Event) : Verdict :=
  match e with
  | .blank _ => .done b
  | .comment value => .done (b.appendCommentTo (.endOf Draft.root) value)
  | _ => .again { b with isQuirky := true, mode := .beforeHtml }

/-- Before the root element. -/
def beforeHtml (b : Builder) (e : Event) : Verdict :=
  let start (_ : Unit) : Verdict := .again { b.insertRoot [] with mode := .beforeHead }
  match e with
  | .blank _ => .done b
  | .comment value => .done (b.appendCommentTo (.endOf Draft.root) value)
  | .startTag tag =>
    if tag.name == "html" then .done { b.insertRoot tag.attributes with mode := .beforeHead }
    else start ()
  | .endTag tag => if isLateEnd tag.name || tag.name == "head" then start () else .done b
  | _ => start ()

/-- Opens the head. -/
def openHead (b : Builder) (attrs : List Attribute) : Builder :=
  let (b, n) := b.openChild ⟨.html, "head"⟩ attrs
  { b with head := some n, mode := .inHead }

/-- Before the head. -/
def beforeHead (b : Builder) (e : Event) : Verdict :=
  match e with
  | .blank _ => .done b
  | .comment value => .done (b.appendComment value)
  | .startTag tag =>
    if tag.name == "html" then .done (b.mergeRoot tag)
    else if tag.name == "head" then .done (b.openHead tag.attributes)
    else .again (b.openHead [])
  | .endTag tag =>
    if isLateEnd tag.name || tag.name == "head" then .again (b.openHead []) else .done b
  | _ => .again (b.openHead [])

/-- In the head. -/
def inHead (b : Builder) (e : Event) : Verdict :=
  let leave (_ : Unit) : Verdict := .again { b.pop with mode := .afterHead }
  match e with
  | .blank text => .done (b.appendText text)
  | .comment value => .done (b.appendComment value)
  | .startTag tag =>
    if tag.name == "html" then .done (b.mergeRoot tag)
    else if headTags.contains tag.name || tag.name == "noscript" then .done (b.startInHead tag)
    else if tag.name == "head" then .done b
    else leave ()
  | .endTag tag =>
    if tag.name == "head" then .done { b.pop with mode := .afterHead }
    else if tag.name == "template" then .done b.endTemplate
    else if isLateEnd tag.name then leave ()
    else .done b
  | _ => leave ()

/-- After the head. What belongs into the head is put there. -/
def afterHead (b : Builder) (e : Event) : Verdict :=
  let start (_ : Unit) : Verdict := .again { b.insertImplied "body" with mode := .inBody }
  match e with
  | .blank text => .done (b.appendText text)
  | .comment value => .done (b.appendComment value)
  | .startTag tag =>
    if tag.name == "html" then .done (b.mergeRoot tag)
    else if tag.name == "body" then
      .done { b.insert tag with allowsFrameset := false, mode := .inBody }
    else if tag.name == "frameset" then .done { b.insert tag with mode := .inFrameset }
    else if headTags.contains tag.name then
      match b.head with
      | some head => .done (({ b with stack := head :: b.stack }.startInHead tag).unstack head)
      | none => .done b
    else if tag.name == "head" then .done b
    else start ()
  | .endTag tag =>
    if tag.name == "template" then .done b.endTemplate
    else if isLateEnd tag.name then start ()
    else .done b
  | _ => start ()

end Builder

end ComponentMarkup.Markup
