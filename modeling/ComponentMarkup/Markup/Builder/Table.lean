import ComponentMarkup.Markup.Builder.Body

/-!
# Tables, selections, templates and frames

What events mean inside of tables and of the other elements that hold only certain content.

## Main definitions

* `Markup.Builder.inTable`, `Markup.Builder.inRow`, `Markup.Builder.inCell` and their neighbours
* `Markup.Builder.inSelect` — lists of options
* `Markup.Builder.inTemplate` — the content of a template, which takes any form
-/

namespace ComponentMarkup.Markup.Builder

open ElementName (impliedEnds)

/-- Parts of a table that end a cell, a caption or a row. -/
def tableParts : List String :=
  ["caption", "col", "colgroup", "tbody", "td", "tfoot", "th", "thead", "tr"]

/-- The groups of rows. -/
def rowGroups : List String := ["tbody", "tfoot", "thead"]

/-- Whether an element of the name is open in the table. -/
def inTableScope (b : Builder) (name : String) : Bool := b.inScope (·.boundsTableScope) name

/-- Goes back to the table. -/
def clearToTable (b : Builder) : Builder := b.popTo (·.isOneOf ["table", "template", "html"])

/-- Goes back to the group of rows. -/
def clearToGroup (b : Builder) : Builder :=
  b.popTo (·.isOneOf ["tbody", "tfoot", "thead", "template", "html"])

/-- Goes back to the row. -/
def clearToRow (b : Builder) : Builder := b.popTo (·.isOneOf ["tr", "template", "html"])

/-- Text in a table is gathered until it ends; elsewhere it goes before the table. -/
def textInTable (b : Builder) (e : Event) : Verdict :=
  if b.currentName.isOneOf ["table", "tbody", "tfoot", "thead", "tr"] then
    .again { b with returnMode := b.mode, mode := .inTableText }
  else b.inBodyFostered e

/-- Closes the table and looks at the event again, if a table is open. -/
def closeTable (b : Builder) : Builder := (b.close "table").resetMode

/-- In a table. -/
def inTable (b : Builder) (e : Event) : Verdict :=
  match e with
  | .zero => b.textInTable e
  | .blank _ => b.textInTable e
  | .words _ => b.textInTable e
  | .comment value => .done (b.appendComment value)
  | .startTag tag =>
    if tag.name == "caption" then
      .done { b.clearToTable.markFormatting.insert tag with mode := .inCaption }
    else if tag.name == "colgroup" then
      .done { b.clearToTable.insert tag with mode := .inColumnGroup }
    else if tag.name == "col" then
      .again { b.clearToTable.insertImplied "colgroup" with mode := .inColumnGroup }
    else if rowGroups.contains tag.name then
      .done { b.clearToTable.insert tag with mode := .inTableBody }
    else if ["td", "th", "tr"].contains tag.name then
      .again { b.clearToTable.insertImplied "tbody" with mode := .inTableBody }
    else if tag.name == "table" then
      if b.inTableScope "table" then .again b.closeTable else .done b
    else if ["style", "script", "template"].contains tag.name then .done (b.startInHead tag)
    else if tag.name == "input" && isHidden tag then .done (b.insertVoid tag)
    else if tag.name == "form" then
      if b.isOpen "template" || b.form.isSome then .done b
      else
        let (b, n) := b.addChild ⟨.html, tag.name⟩ tag.attributes
        .done { b with form := some n }
    else b.inBodyFostered e
  | .endTag tag =>
    if tag.name == "table" then
      if b.inTableScope "table" then .done b.closeTable else .done b
    else if tag.name == "body" || tag.name == "html" || tableParts.contains tag.name then .done b
    else if tag.name == "template" then .done b.endTemplate
    else b.inBodyFostered e
  | .finish => b.inBody e

/-- While text in a table is gathered. Text with more than blanks goes before the table. -/
def inTableText (b : Builder) (e : Event) : Verdict :=
  let isWords : Event → Bool
    | .words _ => true
    | _ => false
  let flush (_ : Unit) : Verdict :=
    let pending := b.pendingText.reverse
    let b := { b with pendingText := [] }
    let b := if pending.any isWords then
        pending.foldl (fun b e => (b.inBodyFostered e).builder) b
      else
        pending.foldl (fun b e =>
          match e with
          | .blank text => b.appendText text
          | _ => b) b
    .again { b with mode := b.returnMode }
  match e with
  | .zero => .done b
  | .blank _ => .done { b with pendingText := e :: b.pendingText }
  | .words _ => .done { b with pendingText := e :: b.pendingText }
  | _ => flush ()

/-- In the caption of a table. -/
def inCaption (b : Builder) (e : Event) : Verdict :=
  let leave (isOwn : Bool) : Verdict :=
    if b.inTableScope "caption" then
      let b := ((b.closeImplied impliedEnds).close "caption").clearFormatting
      if isOwn then .done { b with mode := .inTable } else .again { b with mode := .inTable }
    else .done b
  match e with
  | .startTag tag => if tableParts.contains tag.name then leave false else b.inBody e
  | .endTag tag =>
    if tag.name == "caption" then leave true
    else if tag.name == "table" then leave false
    else if tag.name == "body" || tag.name == "html" || tableParts.contains tag.name then .done b
    else b.inBody e
  | _ => b.inBody e

/-- In a group of columns. -/
def inColumnGroup (b : Builder) (e : Event) : Verdict :=
  let leave (_ : Unit) : Verdict :=
    if b.isAt "colgroup" then .again { b.pop with mode := .inTable } else .done b
  match e with
  | .blank text => .done (b.appendText text)
  | .comment value => .done (b.appendComment value)
  | .startTag tag =>
    if tag.name == "html" then .done (b.mergeRoot tag)
    else if tag.name == "col" then .done (b.insertVoid tag)
    else if tag.name == "template" then .done (b.startInHead tag)
    else leave ()
  | .endTag tag =>
    if tag.name == "colgroup" then
      if b.isAt "colgroup" then .done { b.pop with mode := .inTable } else .done b
    else if tag.name == "col" then .done b
    else if tag.name == "template" then .done b.endTemplate
    else leave ()
  | .finish => b.inBody e
  | _ => leave ()

/-- In a group of rows. -/
def inTableBody (b : Builder) (e : Event) : Verdict :=
  let leave (_ : Unit) : Verdict :=
    if b.inScopeWhere (·.boundsTableScope) (·.isOneOf ["table", "tbody", "tfoot"]) then
      .again { b.clearToGroup.pop with mode := .inTable }
    else .done b
  match e with
  | .startTag tag =>
    if tag.name == "tr" then .done { b.clearToGroup.insert tag with mode := .inRow }
    else if ["th", "td"].contains tag.name then
      .again { b.clearToGroup.insertImplied "tr" with mode := .inRow }
    else if tableParts.contains tag.name then leave ()
    else b.inTable e
  | .endTag tag =>
    if rowGroups.contains tag.name then
      if b.inTableScope tag.name then .done { b.clearToGroup.pop with mode := .inTable }
      else .done b
    else if tag.name == "table" then leave ()
    else if tag.name == "body" || tag.name == "html" || tableParts.contains tag.name then .done b
    else b.inTable e
  | _ => b.inTable e

/-- In a row. -/
def inRow (b : Builder) (e : Event) : Verdict :=
  let closeRow (_ : Unit) : Builder := { b.clearToRow.pop with mode := .inTableBody }
  let leave (_ : Unit) : Verdict :=
    if b.inTableScope "tr" then .again (closeRow ()) else .done b
  match e with
  | .startTag tag =>
    if ["th", "td"].contains tag.name then
      .done { (b.clearToRow.insert tag).markFormatting with mode := .inCell }
    else if tableParts.contains tag.name then leave ()
    else b.inTable e
  | .endTag tag =>
    if tag.name == "tr" then if b.inTableScope "tr" then .done (closeRow ()) else .done b
    else if tag.name == "table" then leave ()
    else if rowGroups.contains tag.name then
      if b.inTableScope tag.name then leave () else .done b
    else if tag.name == "body" || tag.name == "html" || tableParts.contains tag.name then .done b
    else b.inTable e
  | _ => b.inTable e

/-- In a cell. -/
def inCell (b : Builder) (e : Event) : Verdict :=
  let closeCell (_ : Unit) : Verdict :=
    .again { ((b.closeImplied impliedEnds).popThrough (·.isOneOf ["td", "th"])).clearFormatting with
      mode := .inRow }
  match e with
  | .startTag tag =>
    if tableParts.contains tag.name then
      if b.inScopeWhere (·.boundsTableScope) (·.isOneOf ["td", "th"]) then closeCell () else .done b
    else b.inBody e
  | .endTag tag =>
    if ["td", "th"].contains tag.name then
      if b.inTableScope tag.name then
        .done { ((b.closeImplied impliedEnds).close tag.name).clearFormatting with mode := .inRow }
      else .done b
    else if ["body", "caption", "col", "colgroup", "html"].contains tag.name then .done b
    else if tag.name == "table" || tag.name == "tr" || rowGroups.contains tag.name then
      if b.inTableScope tag.name then closeCell () else .done b
    else b.inBody e
  | _ => b.inBody e

/-- In a list of options. Other elements are left out, their content is kept. -/
def inSelect (b : Builder) (e : Event) : Verdict :=
  let isSelecting := b.inScope (·.boundsSelectScope) "select"
  let closeSelect (_ : Unit) : Builder := (b.close "select").resetMode
  match e with
  | .blank text => .done (b.appendText text)
  | .words text => .done (b.appendText text)
  | .comment value => .done (b.appendComment value)
  | .startTag tag =>
    if tag.name == "html" then .done (b.mergeRoot tag)
    else if tag.name == "option" then .done ((if b.isAt "option" then b.pop else b).insert tag)
    else if tag.name == "optgroup" then
      let b := if b.isAt "option" then b.pop else b
      .done ((if b.isAt "optgroup" then b.pop else b).insert tag)
    else if tag.name == "select" then .done (if isSelecting then closeSelect () else b)
    else if ["input", "keygen", "textarea"].contains tag.name then
      if isSelecting then .again (closeSelect ()) else .done b
    else if ["script", "template"].contains tag.name then .done (b.startInHead tag)
    else .done b
  | .endTag tag =>
    if tag.name == "optgroup" then
      let isNested := b.isAt "option" &&
        (b.stack.drop 1).head?.any fun n => (b.name n).isHtml "optgroup"
      let b := if isNested then b.pop else b
      .done (if b.isAt "optgroup" then b.pop else b)
    else if tag.name == "option" then .done (if b.isAt "option" then b.pop else b)
    else if tag.name == "select" then .done (if isSelecting then closeSelect () else b)
    else if tag.name == "template" then .done b.endTemplate
    else .done b
  | .finish => b.inBody e
  | .zero => .done b

/-- In a list of options inside of a table. -/
def inSelectInTable (b : Builder) (e : Event) : Verdict :=
  let isPart (name : String) : Bool :=
    ["caption", "table", "tbody", "tfoot", "thead", "tr", "td", "th"].contains name
  let leave (_ : Unit) : Verdict := .again (b.close "select").resetMode
  match e with
  | .startTag tag => if isPart tag.name then leave () else b.inSelect e
  | .endTag tag =>
    if isPart tag.name then if b.inTableScope tag.name then leave () else .done b
    else b.inSelect e
  | _ => b.inSelect e

/-- In a template. The first tag decides which rules hold for the rest. -/
def inTemplate (b : Builder) (e : Event) : Verdict :=
  let become (mode : Mode) : Verdict :=
    .again { b with mode, templateModes := mode :: b.templateModes.drop 1 }
  match e with
  | .startTag tag =>
    if headTags.contains tag.name then .done (b.startInHead tag)
    else if tag.name == "caption" || tag.name == "colgroup" || rowGroups.contains tag.name then
      become .inTable
    else if tag.name == "col" then become .inColumnGroup
    else if tag.name == "tr" then become .inTableBody
    else if ["td", "th"].contains tag.name then become .inRow
    else become .inBody
  | .endTag tag => if tag.name == "template" then .done b.endTemplate else .done b
  | .finish => b.finishTemplate
  | .zero => .done b
  | _ => b.inBody e

/-- After the body. -/
def afterBody (b : Builder) (e : Event) : Verdict :=
  match e with
  | .blank _ => b.inBody e
  | .comment value =>
    .done (b.appendCommentTo (.endOf (b.stack.getLast?.getD Draft.root)) value)
  | .startTag tag =>
    if tag.name == "html" then .done (b.mergeRoot tag) else .again { b with mode := .inBody }
  | .endTag tag =>
    if tag.name == "html" then .done { b with mode := .afterAfterBody }
    else .again { b with mode := .inBody }
  | .finish => .done b
  | _ => .again { b with mode := .inBody }

/-- After the root element. -/
def afterAfterBody (b : Builder) (e : Event) : Verdict :=
  match e with
  | .blank _ => b.inBody e
  | .comment value => .done (b.appendCommentTo (.endOf Draft.root) value)
  | .startTag tag =>
    if tag.name == "html" then .done (b.mergeRoot tag) else .again { b with mode := .inBody }
  | .finish => .done b
  | _ => .again { b with mode := .inBody }

/-- In a set of frames. -/
def inFrameset (b : Builder) (e : Event) : Verdict :=
  match e with
  | .blank text => .done (b.appendText text)
  | .comment value => .done (b.appendComment value)
  | .startTag tag =>
    if tag.name == "html" then .done (b.mergeRoot tag)
    else if tag.name == "frameset" then .done (b.insert tag)
    else if tag.name == "frame" then .done (b.insertVoid tag)
    else if tag.name == "noframes" then .done (b.startInHead tag)
    else .done b
  | .endTag tag =>
    if tag.name == "frameset" && b.stack.length != 1 then
      let b := b.pop
      .done (if b.isAt "frameset" then b else { b with mode := .afterFrameset })
    else .done b
  | _ => .done b

/-- After a set of frames. -/
def afterFrameset (b : Builder) (e : Event) : Verdict :=
  match e with
  | .blank text => .done (b.appendText text)
  | .comment value => .done (b.appendComment value)
  | .startTag tag =>
    if tag.name == "html" then .done (b.mergeRoot tag)
    else if tag.name == "noframes" then .done (b.startInHead tag)
    else .done b
  | .endTag tag => .done (if tag.name == "html" then { b with mode := .afterAfterFrameset } else b)
  | _ => .done b

/-- After the root element of a set of frames. -/
def afterAfterFrameset (b : Builder) (e : Event) : Verdict :=
  match e with
  | .blank _ => b.inBody e
  | .comment value => .done (b.appendCommentTo (.endOf Draft.root) value)
  | .startTag tag =>
    if tag.name == "html" then .done (b.mergeRoot tag)
    else if tag.name == "noframes" then .done (b.startInHead tag)
    else .done b
  | _ => .done b

end ComponentMarkup.Markup.Builder
