import ComponentMarkup.Text.Blank

/-!
# Markup trees

The trees that documents and components are parsed into.

## Main definitions

* `Markup.Attribute` — an attribute as written: a name and a text
* `Markup.Node` — documents, document types, texts, comments and elements
* `Markup.Node.textContent` — the texts of a tree, joined
* `Markup.Node.anyBelow` — whether a node below has a property
* `Markup.isVoidElement`, `Markup.isRawTextElement` — elements written in a special way
-/

namespace ComponentMarkup.Markup

/-- An attribute as written. -/
structure Attribute where
  name : String
  value : String
  deriving DecidableEq

/-- A node of a markup tree. The content of a template stands apart from its children. -/
inductive Node
  | document (children : List Node)
  | doctype (name : String)
  | text (value : String)
  | comment (value : String)
  | element (name : String) (attributes : List Attribute) (children : List Node)
      (content : Option Node)

instance : Inhabited Node := ⟨.text ""⟩

namespace Node

/-- The children of a node. -/
def children : Node → List Node
  | document cs => cs
  | element _ _ cs _ => cs
  | _ => []

/-- The name of an element. -/
def tag? : Node → Option String
  | element name _ _ _ => some name
  | _ => none

/-- The attributes of an element, none for other nodes. -/
def attributes : Node → List Attribute
  | element _ attrs _ _ => attrs
  | _ => []

/-- The content of a template. -/
def content? : Node → Option Node
  | element _ _ _ content => content
  | _ => none

/-- The value of the first attribute of a name. -/
def attribute? (n : Node) (name : String) : Option String :=
  (n.attributes.find? (·.name == name)).map Attribute.value

/-- Whether there is an attribute of the name. -/
def hasAttribute (n : Node) (name : String) : Bool := n.attributes.any (·.name == name)

/-- Whether the node is an element. -/
def isElement (n : Node) : Bool := n.tag?.isSome

/-- Whether the node is an element of the name. -/
def hasTag (n : Node) (name : String) : Bool := n.tag? == some name

/-- Whether the node is a comment. -/
def isComment : Node → Bool
  | comment _ => true
  | _ => false

/-- Whether the node is a text of blanks. -/
def isBlank : Node → Bool
  | text value => isBlankText value
  | _ => false

mutual

/-- The texts of a tree in order, joined; the content of templates is left out. -/
def textContent : Node → String
  | document cs => textOfAll cs
  | text value => value
  | element _ _ cs _ => textOfAll cs
  | _ => ""
termination_by structural n => n

/-- The texts of several trees, joined. -/
def textOfAll : List Node → String
  | [] => ""
  | n :: ns => n.textContent ++ textOfAll ns
termination_by structural ns => ns

end

mutual

/-- Whether the node or one below it, the content of templates included, has the property. -/
def hasSelfOrBelow (p : Node → Bool) : Node → Bool
  | document cs => p (document cs) || anyOfAll p cs
  | element name attrs cs content =>
    p (element name attrs cs content) || anyOfAll p cs || anyOfContent p content
  | n => p n
termination_by structural n => n

/-- Whether one of the nodes, or one below them, has the property. -/
def anyOfAll (p : Node → Bool) : List Node → Bool
  | [] => false
  | n :: ns => n.hasSelfOrBelow p || anyOfAll p ns
termination_by structural ns => ns

/-- Whether the content of a template, or a node below it, has the property. -/
def anyOfContent (p : Node → Bool) : Option Node → Bool
  | none => false
  | some n => n.hasSelfOrBelow p
termination_by structural n => n

end

theorem anyOfAll_eq_any (p : Node → Bool) (ns : List Node) :
    anyOfAll p ns = ns.any (hasSelfOrBelow p) := by
  induction ns with
  | nil => rfl
  | cons n ns ih => rw [anyOfAll, ih, List.any_cons]

/-- A node that lacks the property, and so do all below it. -/
theorem lacks_of_hasSelfOrBelow {p : Node → Bool} {n : Node} (lacks : n.hasSelfOrBelow p = false) :
    p n = false ∧ (∀ m ∈ n.children, m.hasSelfOrBelow p = false) ∧
      ∀ content, n.content? = some content → content.hasSelfOrBelow p = false := by
  cases n with
  | document cs =>
    obtain ⟨self, below⟩ := Bool.or_eq_false_iff.mp lacks
    rw [anyOfAll_eq_any, List.any_eq_false] at below
    exact ⟨self, fun m hm => eq_false_of_ne_true (below m hm), nofun⟩
  | element name attributes cs content =>
    obtain ⟨here, within⟩ := Bool.or_eq_false_iff.mp lacks
    obtain ⟨self, below⟩ := Bool.or_eq_false_iff.mp here
    rw [anyOfAll_eq_any, List.any_eq_false] at below
    refine ⟨self, fun m hm => eq_false_of_ne_true (below m hm), fun m same => ?_⟩
    obtain rfl : content = some m := same
    exact within
  | _ => exact ⟨lacks, nofun, nofun⟩

/-- Whether a node below, the content of templates included, has the property. -/
def anyBelow (p : Node → Bool) (n : Node) : Bool :=
  anyOfAll p n.children || anyOfContent p n.content?

end Node

/-- Elements without an end tag. -/
def isVoidElement (tag : String) : Bool :=
  ["area", "base", "br", "col", "embed", "hr", "img", "input", "link", "meta", "param", "source",
    "track", "wbr"].contains tag

/-- Elements whose texts are written without escapes. -/
def isRawTextElement (tag : String) : Bool :=
  ["style", "script", "xmp", "iframe", "noembed", "noframes", "plaintext", "noscript"].contains tag

end ComponentMarkup.Markup
