import ComponentMarkup.Component.Definition

/-!
# Rendering contexts

What rendering a node depends on besides the node.

## Main definitions

* `Context` — the context of a branch of a document
* `Context.ofRoot`, `Context.forInstance` — contexts of the document and of component instances
* `Context.slotContent?` — the content handed to a slot, and its context
-/

namespace ComponentMarkup

open Markup (Node)

/-- The context of a branch of a document. -/
structure Context where
  data : Cascade
  /-- Nothing is interpreted, neither directives nor components; this goes for all below. -/
  raw : Bool
  /-- Texts are written without escapes. -/
  rawText : Bool
  /-- The component around, or the document, to which usages, styles and scripts belong. -/
  owner : String
  component : Component
  /-- The branch is content that was handed to a component. -/
  isSlotContent : Bool
  /-- The bucket for styles and scripts that name none. -/
  bucket : Option String
  /-- The paths of the component instances around, the outermost first. -/
  ancestry : List String
  /-- The content handed to the component. -/
  light : List Node
  /-- The context that the content handed over was written in; none for the document. -/
  caller : Option Context

namespace Context

/-- The context of a document. -/
def ofRoot (root : Component) (environment : Cascade) : Context where
  data := environment.forComponent root.path root.setup [] []
  raw := false
  rawText := false
  owner := root.path
  component := root
  isSlotContent := false
  bucket := none
  ancestry := [root.path]
  light := []
  caller := none

/-- The file that the branch was written in. -/
def file (c : Context) : String := c.data.filePath

/-- The scope id of the component around. -/
def scopeId (c : Context) : Option String := c.component.scopeId

/-- The context with further loop bindings. -/
def withLocals (c : Context) (bindings : Entries Value) : Context :=
  { c with data := c.data.withLocals bindings }

/-- The context of content that is handed to a component. -/
def asSlotContent (c : Context) : Context := { c with isSlotContent := true }

/-- The context of the children of an element. -/
def nested (c : Context) (raw rawText : Bool) (bucket : Option String) : Context :=
  { c with raw := raw, rawText := rawText, bucket := bucket }

/-- The context inside an instance of a component whose host was written in `c`. -/
def forInstance (c : Context) (d : Component) (data : Cascade) (bucket : Option String)
    (light : List Node) : Context where
  data := data
  raw := false
  rawText := false
  owner := d.path
  component := d
  isSlotContent := false
  bucket := bucket
  ancestry := c.ancestry ++ [d.path]
  light := light
  caller := some c.asSlotContent

/-! ### Slots -/

/-- The slot that a node handed to a component is for. -/
def slotOf (n : Node) : String := (n.attribute? "slot").getD defaultSlot

/-- The content for a slot that the component declares. -/
def assigned (c : Context) (name : String) : List Node :=
  if c.component.slots.contains name then c.light.filter (slotOf · == name) else []

/-- The content for a slot with the context it was written in; none if there are only blanks. -/
def slotContent? (c : Context) (name : String) : Option (Context × List Node) :=
  c.caller.bind fun caller =>
    if (c.assigned name).all Node.isBlank then none else some (caller.asSlotContent, c.assigned name)

end Context

end ComponentMarkup
