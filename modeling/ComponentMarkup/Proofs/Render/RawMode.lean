import ComponentMarkup.Compiler
import ComponentMarkup.Proofs.Render.Termination

/-!
# Raw mode

Where nothing is interpreted, a node is written as it was parsed, and so is all below it. The walk
then needs nothing but the tree: it cannot fail, it leaves what is known of components and usages as
it is, and it finds no styles, scripts or usages. Directives, loops, slots and the tags of
components are markup like any other, at any depth and in the content of templates too.

## Main definitions

* `Markup.Node.verbatim` — the markup of a tree as it was written
* `Walk.Writes` — a part of a walk that does nothing but write a text
* `Renderer.Copies` — a renderer that writes a list as it was parsed

## Main results

* `Writes.bind`, `Writes.each` — parts that only write, one after another
* `renderItem_writes`, `renderItems_copies` — nodes are written as they were parsed if the lists
  below are
* `render_copies` — so is every list, to whatever depth its nodes nest
* `renderItem_raw` — raw mode for a node, in any two contexts
-/

namespace ComponentMarkup

open Markup (Node isRawTextElement isVoidElement)

/-! ### The markup of a tree -/

namespace Markup.Node

mutual

/-- The markup of a tree as it was written. The content of a template takes the place of its
children. -/
def verbatim (rawText : Bool) : Node → String
  | .document nodes => verbatimAll rawText nodes
  | .doctype name => renderDoctype name
  | .text value => renderText rawText value
  | .comment value => renderComment value
  | .element tag attributes nodes content =>
    if isVoidElement tag then verbatimStartTag tag attributes
    else
      verbatimStartTag tag attributes ++
        (match content with
          | some n => verbatimContent (isRawTextElement tag) n
          | none => verbatimAll (isRawTextElement tag) nodes) ++ endTag tag
termination_by structural n => n

/-- The markup of the content of a template. -/
def verbatimContent (rawText : Bool) : Node → String
  | .document nodes => verbatimAll rawText nodes
  | .element _ _ nodes _ => verbatimAll rawText nodes
  | _ => ""
termination_by structural n => n

/-- The markup of several trees. -/
def verbatimAll (rawText : Bool) : List Node → String
  | [] => ""
  | n :: ns => verbatim rawText n ++ verbatimAll rawText ns
termination_by structural ns => ns

end

theorem verbatimContent_eq (rawText : Bool) (n : Node) :
    verbatimContent rawText n = verbatimAll rawText n.children := by
  cases n <;> rfl

theorem verbatimAll_eq (rawText : Bool) (ns : List Node) :
    verbatimAll rawText ns = String.join (ns.map (verbatim rawText)) := by
  induction ns with
  | nil => rfl
  | cons n ns ih => rw [verbatimAll, ih, List.map_cons, String.join_cons]

/-- Of an element its children are written, or the content of a template. -/
theorem verbatim_element (rawText : Bool) (tag : String) (attributes : List Attribute)
    (nodes : List Node) (content : Option Node) :
    verbatim rawText (.element tag attributes nodes content) =
      if isVoidElement tag then verbatimStartTag tag attributes
      else verbatimStartTag tag attributes ++ verbatimAll (isRawTextElement tag)
        (renderedChildren (.element tag attributes nodes content)) ++ endTag tag := by
  cases content with
  | none => rfl
  | some n => rw [verbatim, verbatimContent_eq]; rfl

end Markup.Node

open Markup.Node (height verbatim verbatimAll)

/-! ### Walks that only write -/

namespace Walk

variable {w : Walk Output} {text text' : String}

/-- From any start the walk succeeds, leaves what is known as it is, and gives nothing but a
text. -/
def Writes (w : Walk Output) (text : String) : Prop :=
  ∀ p, ∃ o, w p = .ok (o, p) ∧ o.fragments = [] ∧ o.usages = [] ∧ o.markup = text

namespace Writes

theorem ofText (text : String) : Writes (Walk.pure (.ofText text)) text :=
  fun _ => ⟨.ofText text, rfl, rfl, rfl, Output.markup_ofText text⟩

theorem ite {c : Prop} [Decidable c] {v : Walk Output} (yes : c → w.Writes text)
    (no : ¬ c → v.Writes text') : Writes (if c then w else v) (if c then text else text') := by
  by_cases h : c
  · simpa only [if_pos h] using yes h
  · simpa only [if_neg h] using no h

/-- What follows a text that was written. -/
theorem bind (h : w.Writes text) {f : Output → Walk Output}
    (next : ∀ o, o.fragments = [] → o.usages = [] → o.markup = text → (f o).Writes text') :
    (Walk.bind w f).Writes text' := by
  intro p
  obtain ⟨o, ran, fragments, usages, markup⟩ := h p
  obtain ⟨o', ran', rest⟩ := next o fragments usages markup p
  exact ⟨o', by simp only [Walk.bind, ran, ran'], rest⟩

/-- A text between two others. -/
theorem between (h : w.Writes text) (opening closing : String) :
    (Walk.bind w fun o => Walk.pure (.ofText opening ++ o ++ .ofText closing)).Writes
      (opening ++ text ++ closing) := by
  refine h.bind fun o fragments usages markup _ => ⟨_, rfl, ?_, ?_, ?_⟩
  · change [] ++ o.fragments ++ [] = []
    simp [fragments]
  · simp [usages]
  · simp [markup]

/-- Parts that only write, one after another. -/
theorem each {α : Type} {f : α → Walk Output} {g : α → String} {as : List α}
    (step : ∀ a ∈ as, (f a).Writes (g a)) (p : Progress) :
    ∃ os, Walk.each f as p = .ok (os, p) ∧ (∀ o ∈ os, o.fragments = [] ∧ o.usages = []) ∧
      os.map Output.markup = as.map g := by
  induction as with
  | nil => exact ⟨[], rfl, nofun, rfl⟩
  | cons a as ih =>
    obtain ⟨o, ran, fragments, usages, markup⟩ := step a List.mem_cons_self p
    obtain ⟨os, ranAll, silent, markups⟩ :=
      ih fun b listed => step b (List.mem_cons_of_mem a listed)
    refine ⟨o :: os, ?_, ?_, ?_⟩
    · simp only [Walk.each, Walk.bind, ran, ranAll]
      rfl
    · exact List.forall_mem_cons.mpr ⟨⟨fragments, usages⟩, silent⟩
    · rw [List.map_cons, List.map_cons, markup, markups]

end Writes

end Walk

open Walk (Writes)

/-- A renderer that writes a list as it was parsed, and does nothing else. -/
def Renderer.Copies (r : Renderer) (c : Context) (items : List Item) : Prop :=
  ∀ sink, (r c sink items).Writes (verbatimAll c.rawText (items.map Item.node))

theorem map_node_itemsOf (nodes : List Node) : (itemsOf nodes).map Item.node = nodes := by
  simp [itemsOf, Function.comp_def]

/-! ### Steps of rendering -/

section Steps

variable {s : Setting} {inner : Renderer} {c : Context} {i : Item} {items : List Item}

/-- Where nothing is interpreted, a node is written as it was parsed if the lists that are handed on
are. -/
theorem renderItem_writes (raw : c.raw = true)
    (calls : ∀ c' items, Calls s (fun _ => True) c i c' items → inner.Copies c' items)
    (sink : Sink) : (renderItem s inner c sink i).Writes (i.node.verbatim c.rawText) := by
  obtain ⟨n, extra⟩ := i
  cases n with
  | document nodes =>
    have below := calls _ _ (.document rfl) sink
    rwa [map_node_itemsOf] at below
  | doctype name => exact .ofText (renderDoctype name)
  | text value => exact .ofText (renderText c.rawText value)
  | comment value => exact .ofText (renderComment value)
  | element tag attributes nodes content =>
    have below := calls _ _ (.verbatim raw) sink
    rw [map_node_itemsOf] at below
    have copied : renderItem s inner c sink ⟨.element tag attributes nodes content, extra⟩ =
        renderVerbatim inner c sink (.element tag attributes nodes content) := if_pos raw
    rw [copied, Node.verbatim_element]
    exact .ite (fun _ => .ofText _) fun _ => below.between (verbatimStartTag tag attributes) _

/-- Putting texts in one piece each adds nothing. -/
theorem concat_split_of_silent {os : List Output}
    (silent : ∀ o ∈ os, o.fragments = [] ∧ o.usages = []) (isSplit : Bool) :
    let o := Output.concat (if isSplit then os.map Output.whole else os)
    o.fragments = [] ∧ o.usages = [] ∧ o.markup = String.join (os.map Output.markup) := by
  have none {os : List Output} (silent : ∀ o ∈ os, o.fragments = [] ∧ o.usages = []) :
      (Output.concat os).fragments = [] ∧ (Output.concat os).usages = [] :=
    ⟨List.flatMap_eq_nil_iff.mpr fun o listed => (silent o listed).1,
      List.flatMap_eq_nil_iff.mpr fun o listed => (silent o listed).2⟩
  cases isSplit with
  | false => exact ⟨(none silent).1, (none silent).2, Output.markup_concat os⟩
  | true =>
    have wholes : ∀ o ∈ os.map Output.whole, o.fragments = [] ∧ o.usages = [] :=
      List.forall_mem_map.mpr silent
    have same : (os.map Output.whole).map Output.markup = os.map Output.markup := by simp
    exact ⟨(none wholes).1, (none wholes).2, same ▸ Output.markup_concat (os.map Output.whole)⟩

/-- So is a list. -/
theorem renderItems_copies (raw : c.raw = true)
    (calls : ∀ i ∈ items, ∀ c' items', Calls s (fun _ => True) c i c' items' →
      inner.Copies c' items') : (renderItems s inner).Copies c items := by
  intro sink p
  have item : ∀ i ∈ items, (renderItem s inner c sink i).Writes (i.node.verbatim c.rawText) :=
    fun i listed => renderItem_writes raw (calls i listed) sink
  obtain ⟨os, ran, silent, markups⟩ := Walk.Writes.each item p
  -- No chain is decided and no node is left out: the schedule is the list.
  have all : scheduleItems c items = .ok items := if_pos raw
  have gathered := concat_split_of_silent silent
    (s.isConcurrent && sink == .text && items.length > 1)
  refine ⟨_, ?_, gathered.1, gathered.2.1, ?_⟩
  · unfold renderItems
    rw [all]
    change Walk.bind (Walk.each (renderItem s inner c sink) items) _ p = _
    simp only [Walk.bind, ran]
    rfl
  · rw [gathered.2.2, markups, Node.verbatimAll_eq, List.map_map]
    rfl

/-- A list that is handed on in raw mode is less high than the node. -/
theorem heightOf_lt_of_calls {supplied : Component → Prop} {c' : Context} {items' : List Item}
    (raw : c.raw = true) (call : Calls s supplied c i c' items') :
    heightOf items' < i.node.height := by
  cases call with
  | @document nodes isDocument =>
    have below := i.node.height_children_lt.1
    rw [isDocument] at below ⊢
    rwa [heightOf_itemsOf]
  | verbatim =>
    rw [heightOf_itemsOf]
    exact height_renderedChildren_lt i.node
  | once interpreted => exact nomatch raw.symm.trans interpreted
  | iteration interpreted => exact nomatch raw.symm.trans interpreted

end Steps

/-! ### The walk in raw mode -/

/-- Raw mode goes on to whatever depth nodes nest. -/
theorem render_copies (s : Setting) {c : Context} (raw : c.raw = true) {items : List Item}
    {depth : Nat} (enough : heightOf items < depth) : (render s depth).Copies c items := by
  induction depth generalizing c items with
  | zero => exact absurd enough (Nat.not_lt_zero _)
  | succ depth ih =>
    -- The flag stays set in what a node hands on, and what it hands on is less high.
    refine renderItems_copies raw fun i listed c' items' call => ih (call.raw_eq_true raw) ?_
    have lower := heightOf_lt_of_calls raw call
    have height : i.node.height ≤ heightOf items :=
      Node.height_le_heightOfAll (List.mem_map.mpr ⟨i, listed, rfl⟩)
    omega

/-- Raw mode. A node that is rendered with the raw flag set is written as it was parsed: the walk
succeeds, finds no styles, scripts or usages and leaves what is known of components and usages as it
is. So the text is the same in any two contexts in raw mode that agree on escapes, whatever their
data and components, and with any sources, transforms and usages. -/
theorem renderItem_raw (s : Setting) {c : Context} (raw : c.raw = true) (sink : Sink) (i : Item)
    (p : Progress) {depth : Nat} (enough : i.node.height ≤ depth) :
    ∃ o, renderItem s (render s depth) c sink i p = .ok (o, p) ∧ o.fragments = [] ∧ o.usages = [] ∧
      o.markup = i.node.verbatim c.rawText ∧
      ∀ (s' : Setting) (c' : Context) (sink' : Sink) (extra : List EvaluatedAttribute)
        (p' : Progress) (depth' : Nat), c'.raw = true → c'.rawText = c.rawText →
        i.node.height ≤ depth' →
        ∃ o', renderItem s' (render s' depth') c' sink' ⟨i.node, extra⟩ p' = .ok (o', p') ∧
          o'.fragments = [] ∧ o'.usages = [] ∧ o'.markup = o.markup := by
  have writes (s : Setting) {c : Context} (raw : c.raw = true) (sink : Sink) (i : Item)
      {depth : Nat} (enough : i.node.height ≤ depth) :
      (renderItem s (render s depth) c sink i).Writes (i.node.verbatim c.rawText) := by
    refine renderItem_writes raw (fun c' items call => ?_) sink
    exact render_copies s (call.raw_eq_true raw)
      (Nat.lt_of_lt_of_le (heightOf_lt_of_calls raw call) enough)
  obtain ⟨o, ran, fragments, usages, markup⟩ := writes s raw sink i enough p
  refine ⟨o, ran, fragments, usages, markup, ?_⟩
  intro s' c' sink' extra p' depth' raw' same enough'
  rw [markup, ← same]
  exact writes s' raw' sink' ⟨i.node, extra⟩ enough' p'

/-- The context of a raw block in a page. -/
def rawBlock : Context :=
  (Context.ofRoot (.ofTree "index.webc" (.document []) none []) (.ofGlobals [] [])).nested true
    false none

/-- A node that cannot be rendered where directives are followed: its loop and its import are
malformed, and a chain begins with its end. -/
def malformed : Node :=
  .element "div" [⟨"webc:for", "x"⟩, ⟨"webc:import", "../../../x"⟩]
    [.element "slot" [⟨"webc:else", ""⟩] [.text "a < b"] none,
      .element "style" [⟨"webc:bucket", "b"⟩] [.text "a > b"] none]
    none

/-- It can be in raw mode. -/
theorem renderItem_raw_malformed :
    rawBlock.raw = true ∧ malformed.height ≤ 3 ∧
      ∃ o, renderItem ({} : Compiler).setting (render ({} : Compiler).setting 3) rawBlock .text
          ⟨malformed, []⟩ ⟨{}, {}⟩ = .ok (o, ⟨{}, {}⟩) ∧
        o.fragments = [] ∧ o.usages = [] ∧
        o.markup = "<div webc:for=\"x\" webc:import=\"../../../x\">" ++
          "<slot webc:else>a &lt; b</slot><style webc:bucket=\"b\">a > b</style></div>" := by
  have enough : malformed.height ≤ 3 := by decide
  have text : malformed.verbatim rawBlock.rawText =
      "<div webc:for=\"x\" webc:import=\"../../../x\">" ++
        "<slot webc:else>a &lt; b</slot><style webc:bucket=\"b\">a > b</style></div>" := by
    decide +kernel
  obtain ⟨o, ran, fragments, usages, markup, -⟩ := renderItem_raw ({} : Compiler).setting
    (c := rawBlock) rfl .text ⟨malformed, []⟩ ⟨{}, {}⟩ enough
  exact ⟨rfl, enough, o, ran, fragments, usages, markup.trans text⟩

end ComponentMarkup
