import ComponentMarkup.Markup.Vocabulary

/-!
# Drafts of trees

While markup is read its tree is still changed in many places: nodes move, texts grow, children
change their parent. A draft holds the nodes by number; the finished tree is read from it.

## Main definitions

* `Markup.Draft` — nodes by number, each with its parent and children
* `Markup.Draft.append`, `Markup.Draft.insertBefore`, `Markup.Draft.detach` — moving nodes
* `Markup.Draft.node` — the tree below a node
-/

namespace ComponentMarkup.Markup

/-- What a node of a draft is. A fragment is a document. -/
inductive DraftItem
  | document
  | doctype (name : String)
  | text (value : String)
  | comment (value : String)
  | element (name : ElementName) (attributes : List Attribute) (content : Option Nat)

/-- A node of a draft. -/
structure DraftNode where
  item : DraftItem
  parent : Option Nat
  children : Array Nat

/-- The nodes of a tree under construction, by number. -/
structure Draft where
  nodes : Array DraftNode

namespace Draft

/-- The number of the document. -/
def root : Nat := 0

/-- The draft of an empty document. -/
def empty : Draft := ⟨#[⟨.document, none, #[]⟩]⟩

/-! ### Looking up -/

/-- The item of a node. -/
def item (d : Draft) (n : Nat) : DraftItem := (d.nodes[n]?.map DraftNode.item).getD .document

/-- The children of a node. -/
def children (d : Draft) (n : Nat) : Array Nat := (d.nodes[n]?.map DraftNode.children).getD #[]

/-- The parent of a node. -/
def parent? (d : Draft) (n : Nat) : Option Nat := d.nodes[n]?.bind DraftNode.parent

/-- The name of an element; other nodes have none. -/
def name (d : Draft) (n : Nat) : ElementName :=
  match d.item n with
  | .element name _ _ => name
  | _ => ⟨.html, ""⟩

/-- The attributes of an element. -/
def attributes (d : Draft) (n : Nat) : List Attribute :=
  match d.item n with
  | .element _ attrs _ => attrs
  | _ => []

/-- Where children of a node go: a template's go to its content. -/
def holder (d : Draft) (n : Nat) : Nat :=
  match d.item n with
  | .element _ _ (some content) => content
  | _ => n

/-! ### Adding -/

/-- Adds a node that stands nowhere yet. -/
def add (d : Draft) (item : DraftItem) : Draft × Nat :=
  (⟨d.nodes.push ⟨item, none, #[]⟩⟩, d.nodes.size)

/-- Adds an element, a template with its content. -/
def addElement (d : Draft) (name : ElementName) (attrs : List Attribute) : Draft × Nat :=
  if name.isHtml "template" then
    let (d, content) := d.add .document
    d.add (.element name attrs (some content))
  else d.add (.element name attrs none)

/-- Adds the attributes that an element does not have yet. -/
def addAttributes (d : Draft) (n : Nat) (attrs : List Attribute) : Draft :=
  ⟨d.nodes.modify n fun node =>
    match node.item with
    | .element name old content =>
      { node with
        item := .element name
          (old ++ attrs.filter fun a => !old.any (·.name == a.name)) content }
    | _ => node⟩

/-! ### Moving -/

/-- Takes a node from its parent. -/
def detach (d : Draft) (n : Nat) : Draft :=
  match d.parent? n with
  | none => d
  | some p =>
    ⟨(d.nodes.modify p fun node => { node with children := node.children.filter (· != n) }).modify n
      fun node => { node with parent := none }⟩

/-- Makes a node the last child of another. -/
def append (d : Draft) (parent n : Nat) : Draft :=
  ⟨(d.nodes.modify parent fun node => { node with children := node.children.push n }).modify n
    fun node => { node with parent := some parent }⟩

/-- Puts a node before another one. -/
def insertBefore (d : Draft) (sibling n : Nat) : Draft :=
  match d.parent? sibling with
  | none => d
  | some p =>
    let place (cs : List Nat) := cs.flatMap fun c => if c == sibling then [n, c] else [c]
    ⟨(d.nodes.modify p fun node =>
        { node with children := (place node.children.toList).toArray }).modify n
      fun node => { node with parent := some p }⟩

/-- Moves all children of a node to the end of another. -/
def moveChildren (d : Draft) (source target : Nat) : Draft :=
  (d.children source).foldl (fun d n => (d.detach n).append target n) d

/-! ### Texts -/

/-- Lengthens a text. -/
def extendText (d : Draft) (n : Nat) (text : String) : Draft :=
  ⟨d.nodes.modify n fun node =>
    match node.item with
    | .text value => { node with item := .text (value ++ text) }
    | _ => node⟩

/-- Whether a node is a text. -/
def isText (d : Draft) (n : Nat) : Bool :=
  match d.item n with
  | .text _ => true
  | _ => false

/-- Adds text at the end of a node; texts that meet are one. -/
def appendText (d : Draft) (parent : Nat) (text : String) : Draft :=
  match (d.children parent).back? with
  | some last =>
    if d.isText last then d.extendText last text
    else
      let (d, n) := d.add (.text text)
      d.append parent n
  | none =>
    let (d, n) := d.add (.text text)
    d.append parent n

/-- The child before a node. -/
def before? (d : Draft) (n : Nat) : Option Nat :=
  (d.parent? n).bind fun p => ((d.children p).toList.takeWhile (· != n)).getLast?

/-- Adds text before a node; texts that meet are one. -/
def insertTextBefore (d : Draft) (sibling : Nat) (text : String) : Draft :=
  match d.before? sibling with
  | some last =>
    if d.isText last then d.extendText last text
    else
      let (d, n) := d.add (.text text)
      d.insertBefore sibling n
  | none =>
    let (d, n) := d.add (.text text)
    d.insertBefore sibling n

/-! ### The finished tree -/

/-- The tree below a node, to a depth. -/
def nodeTo (d : Draft) : Nat → Nat → Node
  | 0, _ => .text ""
  | depth + 1, n =>
    let below := (d.children n).toList.map (d.nodeTo depth)
    match d.item n with
    | .document => .document below
    | .doctype name => .doctype name
    | .text value => .text value
    | .comment value => .comment value
    | .element name attrs content =>
      .element name.name attrs below (content.map (d.nodeTo depth))

/-- The tree below a node; it is no deeper than there are nodes. -/
def node (d : Draft) (n : Nat) : Node := d.nodeTo (d.nodes.size + 1) n

end Draft

end ComponentMarkup.Markup
