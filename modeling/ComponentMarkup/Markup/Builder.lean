import ComponentMarkup.Markup.Draft
import ComponentMarkup.Markup.Token

/-!
# Building a tree

The state of a tree under construction: the draft, the elements that are open, the formatting
elements that are to be opened again, and the place in the document's structure. The operations
here open and close elements; which of them a token asks for is laid down elsewhere.

## Main definitions

* `Markup.Mode` — the places in a document's structure
* `Markup.Builder` — the state
* `Markup.Builder.insert`, `Markup.Builder.appendText` — adding at the right place
* `Markup.Builder.inScope` — searches among the open elements
* `Markup.Builder.reopenFormatting`, `Markup.Builder.adopt` — misnested formatting elements
-/

namespace ComponentMarkup.Markup

/-- The places in a document's structure. -/
inductive Mode
  | initial
  | beforeHtml
  | beforeHead
  | inHead
  | afterHead
  | inBody
  | text
  | inTable
  | inTableText
  | inCaption
  | inColumnGroup
  | inTableBody
  | inRow
  | inCell
  | inSelect
  | inSelectInTable
  | inTemplate
  | afterBody
  | inFrameset
  | afterFrameset
  | afterAfterBody
  | afterAfterFrameset
  deriving DecidableEq

/-- The entries of the list of formatting elements. A marker separates the entries of a table cell,
a caption or a template from those around it. -/
inductive Formatting
  | marker
  | element (node : Nat) (tag : Tag)

/-- What happens to a tree under construction: runs of blanks, of other characters, and of zeros;
comments; tags; and the end. -/
inductive Event
  | blank (text : List Char)
  | words (text : List Char)
  | zero
  | comment (value : String)
  | startTag (tag : Tag)
  | endTag (tag : Tag)
  | finish

/-- A tree under construction. The element opened last comes first in `stack`, the formatting
element added last first in `formatting`. -/
structure Builder where
  draft : Draft := .empty
  mode : Mode := .initial
  returnMode : Mode := .initial
  templateModes : List Mode := []
  stack : List Nat := []
  formatting : List Formatting := []
  head : Option Nat := none
  form : Option Nat := none
  allowsFrameset : Bool := true
  skipsNewline : Bool := false
  fosters : Bool := false
  isQuirky : Bool := false
  pendingText : List Event := []
  scan : Scan := .data

namespace Builder

/-! ### Open elements -/

/-- The element opened last. -/
def current (b : Builder) : Nat := b.stack.head?.getD Draft.root

/-- The name of a node. -/
def name (b : Builder) (n : Nat) : ElementName := b.draft.name n

/-- The name of the element opened last. -/
def currentName (b : Builder) : ElementName := b.name b.current

/-- Whether the element opened last is the HTML element of the name. -/
def isAt (b : Builder) (name : String) : Bool := b.currentName.isHtml name

/-- Whether an HTML element of the name is open. -/
def isOpen (b : Builder) (name : String) : Bool := b.stack.any fun n => (b.name n).isHtml name

/-- Closes the element opened last. -/
def pop (b : Builder) : Builder := { b with stack := b.stack.drop 1 }

/-- Closes elements up to the first with the property, that one included. -/
def popThrough (b : Builder) (p : ElementName → Bool) : Builder :=
  { b with stack := (b.stack.dropWhile fun n => !p (b.name n)).drop 1 }

/-- Closes elements up to the first with the property. -/
def popTo (b : Builder) (p : ElementName → Bool) : Builder :=
  { b with stack := b.stack.dropWhile fun n => !p (b.name n) }

/-- Closes elements up to the HTML element of the name. -/
def close (b : Builder) (name : String) : Builder := b.popThrough (·.isHtml name)

/-- Takes an element from the open ones. -/
def unstack (b : Builder) (n : Nat) : Builder := { b with stack := b.stack.filter (· != n) }

/-- Closes elements whose end tag may be left out. -/
def closeImplied (b : Builder) (names : List String) : Builder :=
  { b with stack := b.stack.dropWhile fun n => (b.name n).isOneOf names }

/-- The elements whose end tag may be left out, but for one. -/
def impliedExcept (name : String) : List String := ElementName.impliedEnds.filter (· != name)

/-- Searches the open elements from the last one up to one that bounds the search. -/
def scopeSearch (b : Builder) (bounds : ElementName → Bool) (p : Nat → Bool) : List Nat → Bool
  | [] => false
  | n :: rest => p n || (!bounds (b.name n) && b.scopeSearch bounds p rest)

/-- Whether an open element within the bounds has the property. -/
def inScopeWhere (b : Builder) (bounds : ElementName → Bool) (p : ElementName → Bool) : Bool :=
  b.scopeSearch bounds (fun n => p (b.name n)) b.stack

/-- Whether an HTML element of the name is open within the bounds. -/
def inScope (b : Builder) (bounds : ElementName → Bool) (name : String) : Bool :=
  b.inScopeWhere bounds (·.isHtml name)

/-! ### Adding nodes -/

/-- Where a node is added: at the end of a node, or before one. -/
inductive Place
  | endOf (parent : Nat)
  | before (sibling : Nat)

/-- Where content goes that may not stand in a table: before the table, or at the end of the
element around it; a template in between keeps it. -/
def fosterPlace (b : Builder) : List Nat → Place
  | [] => .endOf (b.stack.getLast?.getD Draft.root)
  | n :: rest =>
    if (b.name n).isHtml "template" then .endOf (b.draft.holder n)
    else if (b.name n).isHtml "table" then
      if (b.draft.parent? n).isSome then .before n
      else .endOf (rest.head?.getD Draft.root)
    else b.fosterPlace rest

/-- Where content goes that is meant for an element. -/
def placeIn (b : Builder) (target : Nat) : Place :=
  if b.fosters && (b.name target).isOneOf ["table", "tbody", "tfoot", "thead", "tr"] then
    b.fosterPlace b.stack
  else .endOf (b.draft.holder target)

/-- Puts a node that stands nowhere at a place. -/
def put (b : Builder) (place : Place) (n : Nat) : Builder :=
  match place with
  | .endOf parent => { b with draft := b.draft.append parent n }
  | .before sibling => { b with draft := b.draft.insertBefore sibling n }

/-- Adds text to the element opened last. -/
def appendText (b : Builder) (text : List Char) : Builder :=
  match b.placeIn b.current with
  | .endOf parent => { b with draft := b.draft.appendText parent (String.ofList text) }
  | .before sibling => { b with draft := b.draft.insertTextBefore sibling (String.ofList text) }

/-- Adds a comment to a node. -/
def appendCommentTo (b : Builder) (place : Place) (value : String) : Builder :=
  let (draft, n) := b.draft.add (.comment value)
  { b with draft }.put place n

/-- Adds a comment to the element opened last. -/
def appendComment (b : Builder) (value : String) : Builder :=
  b.appendCommentTo (b.placeIn b.current) value

/-- Adds a new element to the one opened last, without opening it. -/
def addChild (b : Builder) (name : ElementName) (attrs : List Attribute) : Builder × Nat :=
  let place := b.placeIn b.current
  let (draft, n) := b.draft.addElement name attrs
  ({ b with draft }.put place n, n)

/-- Opens a new element in the one opened last. -/
def openChild (b : Builder) (name : ElementName) (attrs : List Attribute) : Builder × Nat :=
  let (b, n) := b.addChild name attrs
  ({ b with stack := n :: b.stack }, n)

/-- Opens an HTML element. -/
def insert (b : Builder) (tag : Tag) : Builder := (b.openChild ⟨.html, tag.name⟩ tag.attributes).1

/-- Opens an HTML element that the markup leaves out. -/
def insertImplied (b : Builder) (name : String) : Builder := (b.openChild ⟨.html, name⟩ []).1

/-- Adds an HTML element without content. -/
def insertVoid (b : Builder) (tag : Tag) : Builder := (b.addChild ⟨.html, tag.name⟩ tag.attributes).1

/-- Opens an element whose content is read in a way of its own. -/
def insertRaw (b : Builder) (tag : Tag) (scan : Scan) : Builder :=
  { b.insert tag with returnMode := b.mode, mode := .text, scan }

/-- Opens the root element. -/
def insertRoot (b : Builder) (attrs : List Attribute) : Builder :=
  let (draft, n) := b.draft.addElement ⟨.html, "html"⟩ attrs
  { { b with draft }.put (.endOf Draft.root) n with stack := [n] }

/-- The body, if it is the second open element. -/
def body? (b : Builder) : Option Nat :=
  match b.stack.reverse with
  | _ :: n :: _ => if (b.name n).isHtml "body" then some n else none
  | _ => none

/-! ### Paragraphs -/

/-- Closes a paragraph. -/
def closeParagraph (b : Builder) : Builder := (b.closeImplied (impliedExcept "p")).close "p"

/-- Closes the paragraph around, if there is one. -/
def endParagraph (b : Builder) : Builder :=
  if b.inScope (·.boundsButtonScope) "p" then b.closeParagraph else b

/-! ### Formatting elements -/

/-- The formatting entries down to the last marker. -/
def freshFormatting (b : Builder) : List (Nat × Tag) :=
  (b.formatting.takeWhile fun | .marker => false | _ => true).filterMap fun
    | .element n tag => some (n, tag)
    | .marker => none

/-- Whether a formatting entry is the node's. -/
def isEntryOf (n : Nat) : Formatting → Bool
  | .element m _ => m == n
  | .marker => false

/-- Whether the node is among the formatting elements. -/
def isFormatting (b : Builder) (n : Nat) : Bool := b.formatting.any (isEntryOf n)

/-- Takes a node from the formatting elements. -/
def dropFormatting (b : Builder) (n : Nat) : Builder :=
  { b with formatting := b.formatting.filter fun e => !isEntryOf n e }

/-- Takes the formatting elements up to the last marker away, the marker included. -/
def clearFormatting (b : Builder) : Builder :=
  { b with formatting := (b.formatting.dropWhile fun | .marker => false | _ => true).drop 1 }

/-- Begins a new group of formatting elements. -/
def markFormatting (b : Builder) : Builder := { b with formatting := .marker :: b.formatting }

/-- Whether a formatting entry needs no opening: it is a marker or open. -/
def isSettled (b : Builder) : Formatting → Bool
  | .marker => true
  | .element n _ => b.stack.contains n

/-- Opens the formatting elements again that were closed with the element around them. -/
def reopenFormatting (b : Builder) : Builder :=
  let closed := b.formatting.takeWhile fun e => !b.isSettled e
  let settled := b.formatting.dropWhile fun e => !b.isSettled e
  let (b, entries) := closed.reverse.foldl (fun (b, entries) entry =>
    match entry with
    | .marker => (b, entries)
    | .element _ tag =>
      let (b, n) := b.openChild ⟨.html, tag.name⟩ tag.attributes
      (b, .element n tag :: entries)) (b, settled)
  { b with formatting := entries }

/-- Whether two tags have the same name and attributes, in any order. -/
def isSameTag (a c : Tag) : Bool :=
  a.name == c.name && a.attributes.length == c.attributes.length &&
    a.attributes.all c.attributes.contains

/-- Opens a formatting element. Of equal ones no more than three are kept. -/
def insertFormatting (b : Builder) (tag : Tag) : Builder :=
  let same := b.freshFormatting.filter fun (_, t) => isSameTag tag t
  let b := if same.length ≥ 3 then
      match same.getLast? with
      | some (n, _) => b.dropFormatting n
      | none => b
    else b
  let (b, n) := b.openChild ⟨.html, tag.name⟩ tag.attributes
  { b with formatting := .element n tag :: b.formatting }

/-! ### Misnested formatting elements -/

/-- Closes an element by an end tag without rules of its own: the first open element of the name,
unless an element with a role of its own is in between. -/
def closeGeneric (b : Builder) (name : String) : Builder :=
  let rec isFound : List Nat → Bool
    | [] => false
    | n :: rest => (b.name n).isHtml name || (!(b.name n).isSpecial && isFound rest)
  if isFound b.stack then
    let target := b.stack.find? fun n => (b.name n).isHtml name
    { b with stack := (b.stack.dropWhile fun n => some n != target).drop 1 }
  else b

/-- Where the copy of the formatting element is entered: in its own place, or after another. -/
inductive Bookmark
  | own
  | after (n : Nat)

/-- Replaces the node of a formatting entry. -/
def replaceFormatting (b : Builder) (old new : Nat) : Builder :=
  { b with formatting := b.formatting.map fun
      | .element n tag => .element (if n == old then new else n) tag
      | .marker => .marker }

/-- Copies the formatting elements between a block and the element that ends above it, so that the
block moves out of them. Of the open elements in between, the nearest first, the result keeps the
copies; `last` is the topmost node moved so far. -/
def adoptBetween (b : Builder) (block : Nat) :
    Nat → List Nat → Nat → Bookmark → Builder × List Nat × Nat × Bookmark
  | _, [], last, mark => (b, [], last, mark)
  | count, n :: rest, last, mark =>
    if count > 3 then (b.dropFormatting n).adoptBetween block (count + 1) rest last mark
    else
      match b.formatting.find? (isEntryOf n) with
      | some (.element _ tag) =>
        let (draft, copy) := b.draft.addElement ⟨.html, tag.name⟩ tag.attributes
        let b := { b with draft }.replaceFormatting n copy
        let mark := if last == block then .after copy else mark
        let b := { b with draft := (b.draft.detach last).append copy last }
        let (b, kept, last, mark) := b.adoptBetween block (count + 1) rest copy mark
        (b, copy :: kept, last, mark)
      | _ => b.adoptBetween block (count + 1) rest last mark

/-- Enters the copy of a formatting element at the bookmark and takes the element out. -/
def enterFormatting (b : Builder) (mark : Bookmark) (old new : Nat) (tag : Tag) : Builder :=
  match mark with
  | .own => b.replaceFormatting old new
  | .after n =>
    { b with formatting := b.formatting.flatMap fun e =>
        if isEntryOf n e then [.element new tag, e]
        else if isEntryOf old e then []
        else [e] }

/-- Ends a formatting element that holds a block which is still open: the block is moved out of it
and its content into a copy. `above` are the open elements above the formatting element. -/
def adoptBlock (b : Builder) (old : Nat) (tag : Tag) (above below : List Nat) (block : Nat) :
    Builder :=
  let outer := above.takeWhile (· != block)
  let between := (above.dropWhile (· != block)).drop 1
  let (b, kept, last, mark) := b.adoptBetween block 1 between block .own
  let b := { b with draft := b.draft.detach last }
  let b := b.put (b.placeIn (below.head?.getD Draft.root)) last
  let (draft, copy) := b.draft.addElement ⟨.html, tag.name⟩ tag.attributes
  let draft := (draft.moveChildren block copy).append block copy
  let b := { b with draft }.enterFormatting mark old copy tag
  { b with stack := outer ++ [copy, block] ++ kept ++ below }

/-- Ends a formatting element, with up to so many repetitions. -/
def adoptTimes (subject : String) : Nat → Builder → Builder
  | 0, b => b
  | times + 1, b =>
    match b.freshFormatting.find? fun (_, tag) => tag.name == subject with
    | none => b.closeGeneric subject
    | some (old, tag) =>
      if !b.stack.contains old then b.dropFormatting old
      else if !b.scopeSearch (·.boundsScope) (· == old) b.stack then b
      else
        let above := b.stack.takeWhile (· != old)
        let below := (b.stack.dropWhile (· != old)).drop 1
        match above.reverse.find? fun n => (b.name n).isSpecial with
        | none => { b with stack := below }.dropFormatting old
        | some block => adoptTimes subject times (b.adoptBlock old tag above below block)

/-- Ends a formatting element wherever it stands. -/
def adopt (b : Builder) (subject : String) : Builder :=
  if b.isAt subject && !b.isFormatting b.current then b.pop else adoptTimes subject 8 b

/-! ### The place in the structure -/

/-- The mode that the open elements ask for. -/
def modeOf (b : Builder) : List Nat → Mode
  | [] => .inBody
  | n :: rest =>
    let name := b.name n
    if name.isHtml "select" then
      let around := rest.find? fun m => (b.name m).isOneOf ["template", "table"]
      if around.any fun m => (b.name m).isHtml "table" then .inSelectInTable else .inSelect
    else if name.isOneOf ["td", "th"] && !rest.isEmpty then .inCell
    else if name.isHtml "tr" then .inRow
    else if name.isOneOf ["tbody", "thead", "tfoot"] then .inTableBody
    else if name.isHtml "caption" then .inCaption
    else if name.isHtml "colgroup" then .inColumnGroup
    else if name.isHtml "table" then .inTable
    else if name.isHtml "template" then b.templateModes.head?.getD .inTemplate
    else if name.isHtml "head" && !rest.isEmpty then .inHead
    else if name.isHtml "body" then .inBody
    else if name.isHtml "frameset" then .inFrameset
    else if name.isHtml "html" then if b.head.isSome then .afterHead else .beforeHead
    else b.modeOf rest

/-- Goes to the mode that the open elements ask for. -/
def resetMode (b : Builder) : Builder := { b with mode := b.modeOf b.stack }

/-- Adds the attributes of a further root tag to the root element. -/
def mergeRoot (b : Builder) (tag : Tag) : Builder :=
  if b.isOpen "template" then b
  else match b.stack.getLast? with
    | some root => { b with draft := b.draft.addAttributes root tag.attributes }
    | none => b

end Builder

end ComponentMarkup.Markup
