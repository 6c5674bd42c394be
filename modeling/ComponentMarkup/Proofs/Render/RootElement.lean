import ComponentMarkup.Compiler
import ComponentMarkup.Proofs.Component.Supply
import ComponentMarkup.Proofs.Render.Host

/-!
# Root elements

An element that is marked as a root, but not as standing for the host, gives way to the host: its
own tag is not written, and its attributes are to be found on the host instead. Two sides read the
mark. The walk drops the tag of every such element, wherever it stands. The component takes up the
attributes of those that stand at the top of its template, and of none if an element there stands
for the host. So the attributes of a root element can get lost: below the top, and beside an element
that stands for the host.

## Main definitions

* `isPlainRoot` — elements that are marked as roots, but do not stand for the host
* `ownAttributes` — the attributes of an element that are no directives
* `DropsOwnTag` — an element gives its content only
* `Component.GivesRootAttributes` — every host that is written has the root attributes

## Main results

* `mem_rootAttributesOf` — the attributes that a component takes up
* `rootAttributes_of_plainRoot` — which root elements keep their attributes, and where these are
  found
* `exists_rootAttribute_lost` — root elements whose attributes are written nowhere
-/

namespace ComponentMarkup

open Markup (Node isVoidElement isRawTextElement)

/-- Whether an element is marked as a root, but does not stand for the host. -/
def isPlainRoot (n : Node) : Bool := ((n.attribute? "webc:root").map (· != "override")).getD false

/-- The attributes of an element that are no directives. -/
def ownAttributes (n : Node) : List Markup.Attribute :=
  n.attributes.filter fun a => !isDirective a.name

/-! ### What a component takes up -/

/-- Of the elements that are marked as roots, those are plain that do not stand for the host. -/
theorem isPlainRoot_iff {n : Node} :
    isPlainRoot n = true ↔ n.hasAttribute "webc:root" = true ∧ isOverrideRoot n = false := by
  have marked : n.hasAttribute "webc:root" = (n.attribute? "webc:root").isSome := by
    rw [Node.hasAttribute, Node.attribute?, Option.isSome_map, Bool.eq_iff_iff, List.find?_isSome,
      List.any_eq_true]
  rw [marked, isPlainRoot, isOverrideRoot]
  cases n.attribute? "webc:root" <;> simp

/-- A component takes up the attributes of the plain roots at the top, if nothing there stands for
the host. -/
theorem mem_rootAttributesOf {tree : Node} {a : Markup.Attribute} :
    a ∈ rootAttributesOf tree ↔
      overrideRootOf? tree = none ∧ ∃ n ∈ tree.children, isPlainRoot n = true ∧
        a ∈ ownAttributes n := by
  unfold rootAttributesOf
  cases stands : overrideRootOf? tree with
  | some i => simp
  | none =>
    have plain : ∀ n ∈ tree.children, isOverrideRoot n = false :=
      List.findIdx?_eq_none_iff.mp stands
    simp only [Option.isSome_none, Bool.false_eq_true, if_false, List.mem_flatMap, List.mem_filter,
      true_and]
    refine exists_congr fun n => ?_
    constructor
    · rintro ⟨⟨listed, marked⟩, isOwn⟩
      exact ⟨listed, isPlainRoot_iff.mpr ⟨marked, plain n listed⟩, List.mem_filter.mpr isOwn⟩
    · rintro ⟨listed, isRoot, isOwn⟩
      exact ⟨⟨listed, (isPlainRoot_iff.mp isRoot).1⟩, List.mem_filter.mp isOwn⟩

/-- A plain root at the top makes a component keep its host's tag, if nothing there stands for the
host. -/
theorem hostPolicyOf_of_plainRoot {tree n : Node} (noOverride : overrideRootOf? tree = none)
    (listed : n ∈ tree.children) (isRoot : isPlainRoot n = true) : hostPolicyOf tree = .keep := by
  have marked := (isPlainRoot_iff.mp isRoot).1
  have keeps : (tree.children.any fun n => n.hasAttribute "webc:root" || isTopLevelAsset n) =
      true :=
    List.any_eq_true.mpr ⟨n, listed, by simp [marked]⟩
  simp [hostPolicyOf, noOverride, keeps]

/-! ### What is written -/

/-- The content of an element that is written to the page. -/
def renderBody (s : Setting) (inner : Renderer) (c : Context) (sink : Sink) (n : Node)
    (tag : String) (attributes : List EvaluatedAttribute) (types : List String)
    (directive : Option Markup.Attribute) : Walk Output :=
  renderTransformed s types c sink fun sink =>
    renderContent inner (renderedChildren n) directive (c.data.withOwn (cascadeEntries attributes))
      (c.nested (hasRawChildren n) (isRawTextElement tag) (bucketOf n c)) sink

/-- Where an element is written to the page, its own tag is not: its markup is that of its content,
and there is none if the tag has no content. -/
def DropsOwnTag (n : Node) : Prop :=
  ∀ s inner c sink tag attributes types o p p',
    renderPlain s inner c sink n tag attributes types p = .ok (o, p') →
      if isVoidElement tag then o.markup = ""
      else ∃ directive content, contentDirective n tag c.file = .ok directive ∧
        renderBody s inner c sink n tag attributes types directive p = .ok (content, p') ∧
        o.markup = content.markup

theorem dropsOwnTag_of_dropsTag {n : Node} (drops : dropsTag n = true) : DropsOwnTag n := by
  intro s inner c sink tag attributes types o p p' rendered
  unfold renderPlain at rendered
  obtain ⟨directive, _, read, rest⟩ := Walk.exists_of_bind_eq_ok rendered
  obtain ⟨isDirective, rfl⟩ := Walk.of_eq_ok.mp read
  simp only [drops, if_true] at rest
  by_cases isVoid : isVoidElement tag = true
  · rw [if_pos isVoid] at rest ⊢
    obtain ⟨rfl, -⟩ := Prod.mk.inj (Except.ok.inj rest)
    exact Output.markup_ofText ""
  · rw [if_neg isVoid] at rest ⊢
    obtain ⟨content, _, body, rest⟩ := Walk.exists_of_bind_eq_ok rest
    obtain ⟨rfl, rfl⟩ := Prod.mk.inj (Except.ok.inj rest)
    exact ⟨directive, content, isDirective, body, by simp⟩

/-- The tag of a plain root is dropped, wherever it stands. -/
theorem dropsOwnTag_of_plainRoot {n : Node} (isRoot : isPlainRoot n = true) : DropsOwnTag n := by
  have drops : dropsTag n = true := by
    unfold isPlainRoot at isRoot
    simp [dropsTag, isRoot]
  exact dropsOwnTag_of_dropsTag drops

/-! ### Where the attributes are found -/

/-- Every host of a component that is written, in whatever context, has each root attribute that
does not give content: it is evaluated for the instance, and is part of the one attribute that the
host has under its key. -/
def Component.GivesRootAttributes (d : Component) : Prop :=
  ∀ inner c sink host tag attributes o p p', host.hasAttribute "webc:nokeep" = false →
    renderComponent inner c sink host tag d attributes p = .ok (o, p') →
      ∃ root onHost rest,
        evaluateAttributes d.rootAttributes (c.instanceData d attributes) d.path = .ok root ∧
        o.markup = startTag tag onHost ++ rest ∧
        ∀ a ∈ d.rootAttributes, isContentDirective a.name = false →
          ∃ e b front back, evaluateAttribute a (c.instanceData d attributes) d.path = .ok e ∧
            e ∈ root ∧ mergedUnder (mergeKey e) (root ++ attributes ++ d.scopeClass) = some b ∧
            onHost = front ++ b :: back ∧ ∀ x ∈ front ++ back, mergeKey x ≠ mergeKey e

theorem givesRootAttributes_of_keepsHost {d : Component} (keeps : d.keepsHost = true)
    (own : ∀ a ∈ d.rootAttributes, isDirective a.name = false) : d.GivesRootAttributes := by
  intro inner c sink host tag attributes o p p' kept rendered
  obtain ⟨onHost, rest, attached, markup⟩ := exists_markup_of_renderComponent keeps kept rendered
  obtain ⟨root, evaluated, onHosts⟩ := exists_hostAttribute attached
  refine ⟨root, onHost, rest, evaluated, markup, fun a listed isPlain => ?_⟩
  obtain ⟨e, isRoot, value⟩ := exists_evaluateAttribute evaluated listed (own a listed) isPlain
  obtain ⟨b, front, back, merged, split, others⟩ := onHosts e isRoot
  exact ⟨e, b, front, back, value, isRoot, merged, split, others⟩

/-- A plain root is written without its own tag, wherever it stands. The component has taken up all
its attributes exactly if nothing at the top of the template stands for the host and each of the
attributes is one of a plain root at the top; so of a plain root at the top it has taken up all or
none. Where there is a plain root at the top and nothing there stands for the host, the component
keeps its host's tag, and that has all that was taken up. -/
theorem rootAttributes_of_plainRoot {s : Sources} {claims : Entries String} {path : String}
    {tree? : Option Node} {d : Component}
    (built : (buildComponent s claims path tree?).1 = .ok d) {n : Node}
    (isRoot : isPlainRoot n = true) :
    DropsOwnTag n ∧
      (ownAttributes n ⊆ d.rootAttributes ↔ ∀ a ∈ ownAttributes n, d.overrideRoot = none ∧
        ∃ m ∈ d.tree.children, isPlainRoot m = true ∧ a ∈ ownAttributes m) ∧
      (n ∈ d.tree.children →
        (ownAttributes n ⊆ d.rootAttributes ↔ d.overrideRoot = none ∨ ownAttributes n = []) ∧
        (d.overrideRoot = none → d.keepsHost = true ∧ d.GivesRootAttributes)) := by
  obtain ⟨tree, scopeId, setup, -, rfl⟩ := isBuilt_of_buildComponent built
  let d : Component := .ofTree path tree scopeId setup
  have taken (a : Markup.Attribute) : a ∈ d.rootAttributes ↔ d.overrideRoot = none ∧
      ∃ m ∈ d.tree.children, isPlainRoot m = true ∧ a ∈ ownAttributes m :=
    mem_rootAttributesOf
  refine ⟨dropsOwnTag_of_plainRoot isRoot, forall₂_congr fun a _ => taken a, fun listed => ⟨?_, ?_⟩⟩
  · constructor
    · intro all
      by_cases empty : ownAttributes n = []
      · exact .inr empty
      · -- Any attribute that was taken up tells that nothing stands for the host.
        obtain ⟨a, isOwn⟩ := List.exists_mem_of_ne_nil _ empty
        exact .inl ((taken a).mp (all isOwn)).1
    · rintro (noOverride | empty) a isOwn
      · exact (taken a).mpr ⟨noOverride, n, listed, isRoot, isOwn⟩
      · rw [empty] at isOwn
        exact absurd isOwn List.not_mem_nil
  · intro noOverride
    have keeps : d.keepsHost = true := by
      have policy : d.hostPolicy = .keep := hostPolicyOf_of_plainRoot noOverride listed isRoot
      rw [Component.keepsHost, policy]
      rfl
    refine ⟨keeps, givesRootAttributes_of_keepsHost keeps fun a isTaken => ?_⟩
    obtain ⟨-, m, -, -, isOwn⟩ := (taken a).mp isTaken
    simpa using (List.mem_filter.mp isOwn).2

/-- A root element with attributes of its own. -/
def framedRoot : Node :=
  .element "div" [⟨"webc:root", ""⟩, ⟨"class", "card"⟩, ⟨"role", "group"⟩] [.text "Card"] none

/-- The component whose template is the root element. -/
def framed : Component := .ofTree "my-card.webc" (.document [framedRoot]) none []

theorem rootAttributes_of_plainRoot_framed :
    (buildComponent ({} : Compiler).setting.sources [] "my-card.webc"
        (some (.document [framedRoot]))).1 = .ok framed ∧
      isPlainRoot framedRoot = true ∧ framedRoot ∈ framed.tree.children ∧
      ownAttributes framedRoot = [⟨"class", "card"⟩, ⟨"role", "group"⟩] ∧
      DropsOwnTag framedRoot ∧
      (ownAttributes framedRoot ⊆ framed.rootAttributes ↔
        ∀ a ∈ ownAttributes framedRoot, framed.overrideRoot = none ∧
          ∃ m ∈ framed.tree.children, isPlainRoot m = true ∧ a ∈ ownAttributes m) ∧
      (framedRoot ∈ framed.tree.children →
        (ownAttributes framedRoot ⊆ framed.rootAttributes ↔
          framed.overrideRoot = none ∨ ownAttributes framedRoot = []) ∧
        (framed.overrideRoot = none → framed.keepsHost = true ∧ framed.GivesRootAttributes)) := by
  have built : (buildComponent ({} : Compiler).setting.sources [] "my-card.webc"
      (some (.document [framedRoot]))).1 = .ok framed := by
    rfl
  have isRoot : isPlainRoot framedRoot = true := by decide
  exact ⟨built, isRoot, List.mem_singleton_self _, by rfl,
    rootAttributes_of_plainRoot built isRoot⟩

/-! ### Root attributes that get lost -/

/-- A page that consists of an instance of a component with a given template. -/
def pageOfTemplate (template : String) : Compiler where
  store := .table [("components/a-el.webc", template)]
  components := [("a-el", "components/a-el.webc")]
  input := some (.content "<a-el></a-el>" "index.webc")

/-- A template with a root element beside one that stands for the host. -/
def besideOverride : String := "<b webc:root=\"override\">1</b><i webc:root class=\"x\">2</i>"

/-- A template with a root element below the top. -/
def belowTop : String := "<p><i webc:root class=\"x\">2</i></p>"

/-- Root elements can lose their attributes: the tag is dropped, and no other has them. The first
component has another root element that stands for the host, in the second one the root element is
not at the top. -/
theorem exists_rootAttribute_lost :
    (∃ n ∈ (Markup.parseTemplate besideOverride).children, isPlainRoot n = true ∧
        ownAttributes n = [⟨"class", "x"⟩]) ∧
      rootAttributesOf (Markup.parseTemplate besideOverride) = [] ∧
      (∃ o summary, (pageOfTemplate besideOverride).run Compiler.depth .text = .ok (o, summary) ∧
        o.markup = "<b>1</b>2") ∧
      (∃ m ∈ (Markup.parseTemplate belowTop).children, ∃ n ∈ m.children, isPlainRoot n = true ∧
        ownAttributes n = [⟨"class", "x"⟩]) ∧
      rootAttributesOf (Markup.parseTemplate belowTop) = [] ∧
      ∃ o summary, (pageOfTemplate belowTop).run Compiler.depth .text = .ok (o, summary) ∧
        o.markup = "<p>2</p>" := by
  have beside : ((pageOfTemplate besideOverride).run Compiler.depth .text).toOption.map
      (fun r => r.1.markup) = some "<b>1</b>2" := by
    decide +kernel
  have below : ((pageOfTemplate belowTop).run Compiler.depth .text).toOption.map
      (fun r => r.1.markup) = some "<p>2</p>" := by
    decide +kernel
  obtain ⟨⟨o, summary⟩, ran, markup⟩ := Option.map_eq_some_iff.mp beside
  obtain ⟨⟨o', summary'⟩, ran', markup'⟩ := Option.map_eq_some_iff.mp below
  refine ⟨?_, by decide +kernel, ⟨o, summary, Compiled.eq_ok_of_toOption ran, markup⟩, ?_,
    by decide +kernel, o', summary', Compiled.eq_ok_of_toOption ran', markup'⟩
  · decide +kernel
  · decide +kernel

end ComponentMarkup
