import ComponentMarkup.Markup.Builder.Table

/-!
# Trees from markup

Markup of any kind has a tree: what is left out is added, what is misplaced is moved, and what is
not closed ends with the markup.

## Main definitions

* `Markup.Builder.handle` — what an event does
* `Markup.documentOf` — the tree of a document
-/

namespace ComponentMarkup.Markup

namespace Builder

/-! ### Drawings and formulas -/

/-- Whether the rules for drawings and formulas hold for an event. -/
def isForeign (b : Builder) (e : Event) : Bool :=
  let here := b.currentName
  let isText := match e with
    | .blank _ => true
    | .words _ => true
    | .zero => true
    | _ => false
  let start? := match e with
    | .startTag tag => some tag.name
    | _ => none
  let isFinish := match e with
    | .finish => true
    | _ => false
  if isFinish || b.stack.isEmpty || here.space == .html then false
  else if here.isMathText && (isText || start?.any fun n => n != "mglyph" && n != "malignmark") then
    false
  else if here.isHtmlIsland && (isText || start?.isSome) then false
  else if here == ⟨.math, "annotation-xml"⟩ && (isText || start?.isSome) then
    if start? == some "svg" then false
    else !(b.draft.attributes b.current).any fun a =>
      a.name == "encoding" &&
        ["text/html", "application/xhtml+xml"].contains (a.value.map Char.toLower)
  else true

/-- Closes elements up to one that holds HTML. -/
def leaveForeign (b : Builder) : Builder :=
  b.popTo fun n => n.space == .html || n.isMathText || n.isHtmlIsland

/-- The open elements after an end tag in a drawing; none if the tag is for the HTML around. -/
def endForeign (b : Builder) (name : String) (isFirst : Bool) : List Nat → Option (List Nat)
  | [] => some b.stack
  | [_] => some b.stack
  | n :: rest =>
    let here := b.name n
    if !isFirst && here.space == .html then none
    else if here.name.map Char.toLower == name then some rest
    else b.endForeign name false rest

/-! ### Events -/

/-- What an event does by the rules of the mode. -/
def byMode (b : Builder) (e : Event) : Verdict :=
  match b.mode with
  | .initial => b.initial e
  | .beforeHtml => b.beforeHtml e
  | .beforeHead => b.beforeHead e
  | .inHead => b.inHead e
  | .afterHead => b.afterHead e
  | .inBody => b.inBody e
  | .text =>
    match e with
    | .blank text => .done (b.appendText text)
    | .words text => .done (b.appendText text)
    | .endTag _ => .done { b.pop with mode := b.returnMode, scan := .data }
    | .finish => .again { b.pop with mode := b.returnMode }
    | _ => .done b
  | .inTable => b.inTable e
  | .inTableText => b.inTableText e
  | .inCaption => b.inCaption e
  | .inColumnGroup => b.inColumnGroup e
  | .inTableBody => b.inTableBody e
  | .inRow => b.inRow e
  | .inCell => b.inCell e
  | .inSelect => b.inSelect e
  | .inSelectInTable => b.inSelectInTable e
  | .inTemplate => b.inTemplate e
  | .afterBody => b.afterBody e
  | .inFrameset => b.inFrameset e
  | .afterFrameset => b.afterFrameset e
  | .afterAfterBody => b.afterAfterBody e
  | .afterAfterFrameset => b.afterAfterFrameset e

/-- What an event does in a drawing or a formula. -/
def byForeign (b : Builder) (e : Event) : Verdict :=
  match e with
  | .zero => .done (b.appendText ['\uFFFD'])
  | .blank text => .done (b.appendText text)
  | .words text => .done (b.appendText text).settleBody
  | .comment value => .done (b.appendComment value)
  | .startTag tag =>
    if breaksOut tag then b.leaveForeign.byMode e
    else
      let space := b.currentName.space
      let name := if space == .svg then adjustSvgName tag.name else tag.name
      .done (b.startForeign space name tag)
  | .endTag tag =>
    if tag.name == "br" || tag.name == "p" then b.leaveForeign.byMode e
    else match b.endForeign tag.name true b.stack with
      | some stack => .done { b with stack }
      | none => b.byMode e
  | .finish => .done b

/-- What an event does, at most so many modes looking at it. -/
def handleWithin : Nat → Builder → Event → Builder
  | 0, b, _ => b
  | limit + 1, b, e =>
    match if b.isForeign e then b.byForeign e else b.byMode e with
    | .done b => b
    | .again b => handleWithin limit b e

/-- What an event does. Looking again closes an element or leads from a mode to one nearer the
body, so there are few more modes to look at it than open elements. -/
def handle (b : Builder) (e : Event) : Builder := handleWithin (b.stack.length + 32) b e

/-! ### Tokens -/

/-- The runs of a text: blanks, zeros and other characters. -/
def runs : List Char → List Event
  | [] => []
  | c :: rest =>
    if c == '\x00' then .zero :: runs rest
    else if isAsciiBlank c then
      match runs rest with
      | .blank text :: others => .blank (c :: text) :: others
      | others => .blank [c] :: others
    else
      match runs rest with
      | .words text :: others => .words (c :: text) :: others
      | others => .words [c] :: others

/-- A document type, which counts only at the start. -/
def declare (b : Builder) (d : Declaration) : Builder :=
  if b.mode == .initial then
    let (draft, n) := b.draft.add (.doctype d.name)
    { { b with draft }.put (.endOf Draft.root) n with
      mode := .beforeHtml
      isQuirky := Markup.isQuirky d.isMalformed d.name d.publicId d.systemId }
  else b

/-- What a token does. A line end right after certain start tags is left out. -/
def take (b : Builder) (token : Token) : Builder :=
  let isFresh := b.skipsNewline
  let b := { b with skipsNewline := false }
  match token with
  | .text chars =>
    let chars := if isFresh && chars.head? == some '\n' then chars.drop 1 else chars
    (runs chars).foldl handle b
  | .comment value => b.handle (.comment value)
  | .doctype d => b.declare d
  | .startTag tag => b.handle (.startTag tag)
  | .endTag tag => b.handle (.endTag tag)

/-- Whether the element opened last is part of a drawing or a formula. -/
def hasLiterals (b : Builder) : Bool := !b.stack.isEmpty && b.currentName.space != .html

/-- The tree under construction after all tokens of the markup. -/
def readAll (b : Builder) (cs : List Char) : Builder :=
  match _h : nextToken? b.scan b.hasLiterals cs with
  | none => b.handle .finish
  | some (token, rest) => (b.take token).readAll rest
termination_by cs.length
decreasing_by exact length_of_nextToken? _h

end Builder

/-! ### Documents -/

/-- Line ends are written in one way. -/
def unifyLines : List Char → List Char
  | [] => []
  | '\r' :: '\n' :: rest => '\n' :: unifyLines rest
  | '\r' :: rest => '\n' :: unifyLines rest
  | c :: rest => c :: unifyLines rest

/-- The text without a mark of byte order at its start. -/
def dropByteOrder : List Char → List Char
  | '\uFEFF' :: rest => rest
  | cs => cs

/-- The tree of a document. -/
def documentOf (cs : List Char) : Node :=
  (({} : Builder).readAll (unifyLines (dropByteOrder cs))).draft.node Draft.root

end ComponentMarkup.Markup
