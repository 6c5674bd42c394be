import ComponentMarkup.Attribute
import ComponentMarkup.Markup.Template

/-!
# Components

What a component's template says about the component.

## Main definitions

* `HostPolicy` — what becomes of the tag that a component is used through
* `Component` — a template with what follows from it
* `hostPolicyOf`, `rootAttributesOf`, `overrideRootOf?`, `declaredSlots` — what follows from a
  template
-/

namespace ComponentMarkup

open Markup (Node)

/-- What becomes of the tag that a component is used through. -/
inductive HostPolicy
  /-- Only the content is rendered. -/
  | elide
  /-- The tag is rendered around the content. -/
  | keep
  /-- An element of the template takes the place of the tag and gets its attributes. -/
  | override
  deriving DecidableEq

/-- A component: its template with what follows from it. -/
structure Component where
  path : String
  tree : Node
  hostPolicy : HostPolicy
  scopeId : Option String
  /-- Attributes that every host gets. -/
  rootAttributes : List Markup.Attribute
  /-- The place among the top-level nodes of the element that stands for the host. -/
  overrideRoot : Option Nat
  slots : List String
  setup : Entries Value
  hasShadowRoot : Bool

/-- Whether the tag that the component is used through is rendered. -/
def Component.keepsHost (d : Component) : Bool := d.hostPolicy == .keep

/-! ### Root elements -/

/-- Whether a node is marked as standing for the host. -/
def isOverrideRoot (n : Node) : Bool := n.attribute? "webc:root" == some "override"

/-- The place of the first top-level element that stands for the host. -/
def overrideRootOf? (tree : Node) : Option Nat := tree.children.findIdx? isOverrideRoot

/-- Whether a text contains a word of `rel` without regard to case. -/
def hasRelWord (word rel : String) : Bool :=
  ((splitWhere isAsciiBlank rel.toList).map fun w => asciiLower (String.ofList w)).contains
    word

/-- Whether a top-level node is a style or script, inline or by reference, that needs the host's
tag around it. -/
def isTopLevelAsset (n : Node) : Bool :=
  if n.hasTag "style" || n.hasTag "script" then
    !n.hasAttribute "webc:setup" && (!isBlankText n.textContent || n.hasAttribute "src")
  else
    n.hasTag "link" && n.hasAttribute "href" &&
      ((n.attribute? "rel").map (hasRelWord "stylesheet")).getD false

/-- Whether a node is a template for a shadow root. -/
def isShadowRoot (n : Node) : Bool :=
  n.hasTag "template" && (n.hasAttribute "shadowrootmode" || n.hasAttribute "shadowroot")

/-- What becomes of the host's tag. -/
def hostPolicyOf (tree : Node) : HostPolicy :=
  if (overrideRootOf? tree).isSome then .override
  else if (tree.children.any fun n => n.hasAttribute "webc:root" || isTopLevelAsset n) ||
      tree.anyBelow isShadowRoot then .keep
  else .elide

/-- The attributes of top-level root elements, directives left out. An element that stands for the
host keeps its own. -/
def rootAttributesOf (tree : Node) : List Markup.Attribute :=
  if (overrideRootOf? tree).isSome then []
  else (tree.children.filter (·.hasAttribute "webc:root")).flatMap fun n =>
    n.attributes.filter fun a => !isDirective a.name

/-! ### Slots -/

/-- The slot for content that names none. -/
def defaultSlot : String := "default"

/-- The name that a slot element has. -/
def slotName (attributes : List Markup.Attribute) : String :=
  ((attributes.find? (·.name == "name")).map Markup.Attribute.value).getD defaultSlot

mutual

/-- The names of the slots of a tree in order, the content of templates included. -/
def slotNames : Node → List String
  | .document nodes => slotNamesOfAll nodes
  | .element name attributes nodes content =>
    (if name == "slot" then [slotName attributes] else []) ++ slotNamesOfAll nodes ++
      slotNamesOfContent content
  | _ => []
termination_by structural n => n

/-- The names of the slots of several trees. -/
def slotNamesOfAll : List Node → List String
  | [] => []
  | n :: ns => slotNames n ++ slotNamesOfAll ns
termination_by structural ns => ns

/-- The names of the slots of a template's content. -/
def slotNamesOfContent : Option Node → List String
  | none => []
  | some n => slotNames n
termination_by structural n => n

end

/-- The slots that a template declares, each once. -/
def declaredSlots (tree : Node) : List String := (slotNames tree).eraseDups

/-! ### Definitions -/

/-- A component from its template, its scope id and the bindings of its setup script. -/
def Component.ofTree (path : String) (tree : Node) (scopeId : Option String)
    (setup : Entries Value) : Component where
  path := path
  tree := tree
  hostPolicy := hostPolicyOf tree
  scopeId := scopeId
  rootAttributes := rootAttributesOf tree
  overrideRoot := overrideRootOf? tree
  slots := declaredSlots tree
  setup := setup
  hasShadowRoot := tree.anyBelow isShadowRoot

end ComponentMarkup
