import ComponentMarkup.Component.Registry
import ComponentMarkup.Directive
import ComponentMarkup.Project.Resolver
import ComponentMarkup.Render.Context
import ComponentMarkup.Render.Output
import ComponentMarkup.Render.Verbatim
import ComponentMarkup.Transform

/-!
# Rendering

A document is rendered in a walk over its tree. Elements whose tags stand for components give way
to the components, content handed to components goes to their slots, directives are followed, and
inline styles and scripts are set apart as fragments of the component around.

Each step of the walk renders the nodes of one list and leaves the lists below to a further walk.
The depth to which lists may nest is a parameter, so every walk ends.

## Main definitions

* `Walk` — steps that change what is known of components and usages, and may halt
* `renderItems` — one step of the walk
* `render` — the walk to a given depth
* `renderRoot` — the markup, fragments and usages of a document
-/

namespace ComponentMarkup

open Markup (Node isRawTextElement isVoidElement)

/-! ### Walks -/

/-- Why a walk gives no output. -/
inductive Halt
  | failed (error : CompileError)
  /-- Lists of nodes nest deeper than allowed. -/
  | tooDeep
  deriving DecidableEq

/-- A result, as the outcome of a part of a walk. -/
def Halt.of {α : Type} (r : Compiled α) : Except Halt α := r.mapError .failed

/-- What changes on the way: what is known of components, and the usages so far. -/
structure Progress where
  registry : Registry
  graph : UsageGraph

/-- A part of a walk. -/
abbrev Walk (α : Type) := Progress → Except Halt (α × Progress)

namespace Walk

/-- The part that changes nothing. -/
def pure {α : Type} (a : α) : Walk α := fun p => .ok (a, p)

/-- One part after another. -/
def bind {α β : Type} (w : Walk α) (f : α → Walk β) : Walk β := fun p =>
  match w p with
  | .ok (a, p) => f a p
  | .error h => .error h

instance : Monad Walk where
  pure := pure
  bind := bind

/-- The part that has a result, or fails with its error. -/
def of {α : Type} (r : Compiled α) : Walk α := fun p => (Halt.of r).map fun a => (a, p)

/-- The part that fails. -/
def fail {α : Type} (e : CompileError) : Walk α := of (.error e)

/-- Parts for the elements of a list, in order. -/
def each {α β : Type} (f : α → Walk β) : List α → Walk (List β)
  | [] => pure []
  | a :: as => bind (f a) fun b => bind (each f as) fun bs => pure (b :: bs)

/-- Looks a tag up. -/
def resolveTag (tag : String) : Walk (Option Component) := fun p => of (p.registry.resolveTag tag) p

/-- Gives a tag to a path and builds the component. -/
def registerTag (s : Sources) (tag path : String) : Walk Unit := fun p =>
  match p.registry.registerTag s tag path with
  | (.ok _, registry) => .ok ((), { p with registry := registry })
  | (.error e, _) => .error (.failed e)

/-- Adds a usage to the graph, unless it closes a cycle. -/
def recordUsage (u : Usage) : Walk Unit := fun p =>
  match p.graph.record u with
  | .ok graph => .ok ((), { p with graph := graph })
  | .error e => .error (.failed e)

end Walk

/-- What stays the same on the way. -/
structure Setting where
  sources : Sources
  resolver : Resolver
  transforms : Entries Transform
  /-- Nodes of a list may be rendered apart from each other. -/
  isConcurrent : Bool
  defaultBucket : String

/-- Where markup goes: it is gathered into one text, or handed on in pieces. -/
inductive Sink
  | text
  | pieces
  deriving DecidableEq

/-- A node to render, with attributes for it from elsewhere. -/
structure Item where
  node : Node
  extra : List EvaluatedAttribute := []

/-- The nodes as items without further attributes. -/
def itemsOf (nodes : List Node) : List Item := nodes.map fun n => { node := n }

/-- A way to render lists of nodes. -/
abbrev Renderer := Context → Sink → List Item → Walk Output

/-! ### Elements -/

/-- The children that are rendered: the content of a template, else its children. -/
def renderedChildren (n : Node) : List Node :=
  match n.content? with
  | some content => content.children
  | none => n.children

/-- The source of a script that gives markup. -/
def scriptSource (n : Node) : String :=
  match n.content? with
  | some content => content.textContent
  | none => n.textContent

/-- The kind of fragment that an element's text is, if it is one. -/
def assetKind? (n : Node) : Option AssetKind :=
  if n.hasTag "style" then some .style
  else if n.hasTag "script" && !n.hasAttribute "src" then
    match n.attribute? "type" with
    | none => some .script
    | some type =>
      if ["", "module", "text/javascript", "application/javascript"].contains type then some .script
      else none
  else none

/-- The directive that gives an element its content, if it has one. -/
def contentDirective (n : Node) (tag file : String) : Compiled (Option Markup.Attribute) :=
  match n.attributes.filter fun a => ["@html", "@text", "@raw"].contains a.name with
  | [] => .ok none
  | [a] => .ok (some a)
  | many => .error (.conflictingContent tag (many.map Markup.Attribute.name) file)

/-- The attributes that an element spreads: those of the host if it does not say which. -/
def spreadOf (n : Node) (data : Cascade) (file : String) : Compiled (List EvaluatedAttribute) :=
  match n.attribute? "@attributes" with
  | none => .ok []
  | some source =>
    (if isBlankText source then .ok (.record data.rawAttributes)
      else evaluateExpression source "attribute `@attributes`" data file).map spreadAttributes

/-- The attributes of an element: its own, those it spreads, and those from elsewhere. -/
def attributesOf (i : Item) (c : Context) : Compiled (List EvaluatedAttribute) := do
  let own ← evaluateAttributes i.node.attributes c.data c.file
  let spread ← spreadOf i.node c.data c.file
  .ok (mergeAttributes (own ++ spread ++ i.extra))

/-- The start tag of an element. -/
def startTag (tag : String) (attributes : List EvaluatedAttribute) : String :=
  "<" ++ tag ++ serializeAttributes attributes ++ ">"

/-- The bucket that a node names, else that of its context. -/
def bucketOf (n : Node) (c : Context) : Option String :=
  match n.attribute? "webc:bucket" with
  | some bucket => some bucket
  | none => c.bucket

/-- Whether a template is one for the compiler and not for the page. -/
def isProcessedTemplate (n : Node) : Bool :=
  n.attributes.any fun a => ["webc:nokeep", "webc:root", "webc:type", "webc:is"].contains a.name

/-- Whether nothing below an element is interpreted. -/
def hasRawChildren (n : Node) : Bool :=
  n.hasAttribute "webc:raw" || (n.hasTag "template" && !isProcessedTemplate n)

/-- Whether only the content of an element is rendered. -/
def dropsTag (n : Node) : Bool :=
  n.hasAttribute "webc:nokeep" ||
    ((n.attribute? "webc:root").map (· != "override")).getD false ||
    (n.hasTag "template" && n.hasAttribute "webc:type" && !n.hasAttribute "webc:keep")

/-- The content of an element: its children, or what a directive gives. -/
def renderContent (inner : Renderer) (children : List Node) (directive : Option Markup.Attribute)
    (data : Cascade) (c : Context) (sink : Sink) : Walk Output :=
  match directive with
  | none => inner c sink (itemsOf children)
  | some a => do
    let value ← Walk.of (evaluateExpression a.value ("attribute `" ++ a.name ++ "`") data c.file)
    if a.name == "@text" then pure (.ofText (escapeText value.display))
    else if a.name == "@html" && !c.raw then
      inner c sink (itemsOf (Markup.parseTemplate value.display).children)
    else pure (.ofText value.display)

/-- The content of an element after its transforms. -/
def renderTransformed (s : Setting) (types : List String) (c : Context) (sink : Sink)
    (content : Sink → Walk Output) : Walk Output :=
  if types.isEmpty then content sink
  else do
    let o ← content .text
    let text ← Walk.of (applyTransforms types o.markup c.scopeId s.transforms c.file)
    pure (o.withMarkup text)

/-- An element that is written to the page. -/
def renderPlain (s : Setting) (inner : Renderer) (c : Context) (sink : Sink) (n : Node)
    (tag : String) (attributes : List EvaluatedAttribute) (types : List String) : Walk Output := do
  let directive ← Walk.of (contentDirective n tag c.file)
  let opening := Output.ofText (if dropsTag n then "" else startTag tag attributes)
  if isVoidElement tag then pure opening
  else do
    let below := c.nested (hasRawChildren n) (isRawTextElement tag) (bucketOf n c)
    let own := c.data.withOwn (cascadeEntries attributes)
    let content ← renderTransformed s types c sink fun sink =>
      renderContent inner (renderedChildren n) directive own below sink
    pure (opening ++ content ++ Output.ofText (if dropsTag n then "" else endTag tag))

/-- A slot: the content handed to it, else its own. -/
def renderSlot (inner : Renderer) (c : Context) (sink : Sink) (n : Node) : Walk Output :=
  match c.slotContent? ((n.attribute? "name").getD defaultSlot) with
  | some (caller, nodes) => inner caller sink (itemsOf nodes)
  | none => inner c sink (itemsOf n.children)

/-- A style or script, set apart. A blank one is left out. -/
def renderAsset (s : Setting) (inner : Renderer) (c : Context) (n : Node) (kind : AssetKind)
    (types : List String) : Walk Output := do
  let content ← inner (c.nested c.raw true c.bucket) .text (itemsOf n.children)
  let text ← Walk.of (applyTransforms types content.markup c.scopeId s.transforms c.file)
  if isBlankText text then pure {}
  else pure { fragments := [⟨kind, c.owner, (bucketOf n c).getD s.defaultBucket, text⟩] }

/-- A script that gives markup: its default export. -/
def renderScripted (inner : Renderer) (c : Context) (sink : Sink) (n : Node) : Walk Output := do
  let source := scriptSource n
  let value ← Walk.of ((Script.evaluateDefault source c.data).mapError
    (.evaluation "render script" source c.file))
  if n.hasAttribute "webc:raw" then pure (.ofText value.display)
  else inner c sink (itemsOf (Markup.parseTemplate value.display).children)

/-! ### Components -/

/-- The attributes of the host of an instance: those of the component's root elements, its own,
and the class of the component's scope. -/
def hostAttributes (d : Component) (data : Cascade) (attributes : List EvaluatedAttribute) :
    Compiled (List EvaluatedAttribute) := do
  let root ← evaluateAttributes d.rootAttributes data d.path
  let scope := d.scopeId.toList.map (EvaluatedAttribute.ofText "class")
  .ok (mergeAttributes (root ++ attributes ++ scope))

/-- The top-level nodes of a component. An element that stands for the host gets its
attributes. -/
def instanceItems (d : Component) (attributes : List EvaluatedAttribute) : List Item :=
  d.tree.children.zipIdx.map fun (n, i) =>
    ⟨n, if d.overrideRoot == some i then attributes else []⟩

/-- The content handed to a component where it follows what the component renders to: when that is
nothing, and next to a shadow root. -/
def renderLight (inner : Renderer) (c : Context) (sink : Sink) (host : Node) (d : Component)
    (content : Output) : Walk Output :=
  if !content.hasMarkup || d.hasShadowRoot then inner c.asSlotContent sink (itemsOf host.children)
  else pure {}

/-- An instance of a component. -/
def renderComponent (inner : Renderer) (c : Context) (sink : Sink) (host : Node) (tag : String)
    (d : Component) (attributes : List EvaluatedAttribute) : Walk Output := do
  if c.ancestry.contains d.path then Walk.fail (.circular c.owner d.path)
  else do
    let usage : Usage := ⟨c.owner, d.path, if c.isSlotContent then .slotted else .structural⟩
    Walk.recordUsage usage
    let data := c.data.forComponent d.path d.setup (cascadeEntries attributes)
      (rawEntries attributes)
    let onHost ← Walk.of (hostAttributes d data attributes)
    let content ← inner (c.forInstance d data (bucketOf host c) host.children) .text
      (instanceItems d onHost)
    let light ← renderLight inner c sink host d content
    let keepsTag := d.keepsHost && !host.hasAttribute "webc:nokeep"
    pure ({ usages := [usage] } ++ Output.ofText (if keepsTag then startTag tag onHost else "") ++
      content.whole ++ light ++
      Output.ofText (if keepsTag && !isVoidElement tag then endTag tag else ""))

/-! ### Nodes -/

/-- An element that stands for no component: a slot, a style or script, or one for the page. -/
def renderOther (s : Setting) (inner : Renderer) (c : Context) (sink : Sink) (n : Node)
    (tag : String) (attributes : List EvaluatedAttribute) (types : List String) : Walk Output :=
  let keeps := n.hasAttribute "webc:keep"
  if n.hasTag "slot" && c.caller.isSome && !keeps then renderSlot inner c sink n
  else match assetKind? n with
    | some kind =>
      if keeps then renderPlain s inner c sink n tag attributes types
      else renderAsset s inner c n kind types
    | none => renderPlain s inner c sink n tag attributes types

/-- The tag under which an element is looked up and written. -/
def tagOf (n : Node) : String := asciiLower ((n.attribute? "webc:is").getD (n.tag?.getD ""))

/-- Makes the element's tag stand for the component that it imports. -/
def followImport (s : Setting) (c : Context) (n : Node) : Walk Unit :=
  match n.attribute? "webc:import" with
  | none => pure ()
  | some reference => do
    let path ← Walk.of (s.resolver.resolve reference (some c.file))
    Walk.registerTag s.sources (tagOf n) path

/-- The component that an element stands for; none for one that is written as it is. -/
def componentOf (n : Node) : Walk (Option Component) :=
  if n.hasAttribute "webc:raw" then pure none else Walk.resolveTag (tagOf n)

/-- An element, once. Setup scripts give nothing. -/
def renderInstance (s : Setting) (inner : Renderer) (c : Context) (sink : Sink) (i : Item) :
    Walk Output :=
  let n := i.node
  if isSetupScript n then pure {}
  else do
    followImport s c n
    let types := transformTypes n
    if isRenderType types then renderScripted inner c sink n
    else do
      let attributes ← Walk.of (attributesOf i c)
      match ← componentOf n with
      | some d => renderComponent inner c sink n (tagOf n) d attributes
      | none => renderOther s inner c sink n (tagOf n) attributes types

/-- Whether the condition of a looping element holds in an iteration. -/
def passes (n : Node) (c : Context) : Compiled Bool :=
  match n.attribute? "webc:if" with
  | some e => testCondition e c.data c.file
  | none => .ok true

/-- The bindings of each iteration of a looping element. -/
def rowsOf (value : String) (c : Context) : Compiled (List (Entries Value)) :=
  match parseLoop? value with
  | some spec => expandLoop spec c.data c.file
  | none => .error (.malformedLoop value c.file)

/-- An element, in one iteration of its loop. -/
def renderRow (s : Setting) (inner : Renderer) (c : Context) (sink : Sink) (i : Item)
    (row : Entries Value) : Walk Output := do
  let c := c.withLocals row
  let holds ← Walk.of (passes i.node c)
  if holds then renderInstance s inner c sink i else pure {}

/-- An element, as often as its loop says. -/
def renderElement (s : Setting) (inner : Renderer) (c : Context) (sink : Sink) (i : Item) :
    Walk Output :=
  match i.node.attribute? "webc:for" with
  | none => renderInstance s inner c sink i
  | some value => do
    let rows ← Walk.of (rowsOf value c)
    let outputs ← Walk.each (renderRow s inner c sink i) rows
    pure (.concat outputs)

/-- An element that is written as it was parsed. So is all below it. -/
def renderVerbatim (inner : Renderer) (c : Context) (sink : Sink) (n : Node) : Walk Output :=
  let tag := n.tag?.getD ""
  let opening := Output.ofText (verbatimStartTag tag n.attributes)
  if isVoidElement tag then pure opening
  else do
    let content ← inner (c.nested true (isRawTextElement tag) c.bucket) sink
      (itemsOf (renderedChildren n))
    pure (opening ++ content ++ Output.ofText (endTag tag))

/-- A node. -/
def renderItem (s : Setting) (inner : Renderer) (c : Context) (sink : Sink) (i : Item) :
    Walk Output :=
  match i.node with
  | .document nodes => inner c sink (itemsOf nodes)
  | .doctype name => pure (.ofText (renderDoctype name))
  | .text value => pure (.ofText (renderText c.rawText value))
  | .comment value => pure (.ofText (renderComment value))
  | .element .. =>
    if c.raw then renderVerbatim inner c sink i.node else renderElement s inner c sink i

/-- The items of a list that are rendered: all of them where nothing is interpreted. -/
def scheduleItems (c : Context) (items : List Item) : Compiled (List Item) :=
  if c.raw then .ok items
  else (schedule (items.map Item.node) c.data c.file).map (marked items)

/-- The nodes of a list. Nodes that may be rendered apart from each other give their markup in one
piece each. -/
def renderItems (s : Setting) (inner : Renderer) : Renderer := fun c sink items => do
  let kept ← Walk.of (scheduleItems c items)
  let outputs ← Walk.each (renderItem s inner c sink) kept
  let isSplit := s.isConcurrent && sink == .text && kept.length > 1
  pure (.concat (if isSplit then outputs.map Output.whole else outputs))

/-- The walk over lists of nodes that nest to a given depth. -/
def render (s : Setting) : Nat → Renderer
  | 0 => fun _ _ _ _ => .error .tooDeep
  | depth + 1 => renderItems s (render s depth)

/-- The markup, fragments and usages of a document that was built as a component. -/
def renderRoot (s : Setting) (depth : Nat) (root : Component) (sink : Sink) : Walk Output :=
  fun p =>
    render s depth (Context.ofRoot root s.sources.data) sink (itemsOf root.tree.children)
      { p with graph := p.graph.addNode root.path }

end ComponentMarkup
