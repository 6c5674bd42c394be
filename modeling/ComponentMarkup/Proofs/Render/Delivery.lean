import ComponentMarkup.Proofs.Render.Accounting
import ComponentMarkup.Proofs.Render.Host

/-!
# Fragments on their way

A style or script that is set apart gives its text to the list that it stands in, and from there the
fragment has a long way to the output of the document: through the elements around, through the
instance whose template it was written in, and through buffers that are kept only to be transformed.

To say what is produced anywhere on the way, and not only what arrives, the walk is compared with
one that halts as soon as it sets apart a style or script whose text makes a certain fragment. If
nothing is lost, it halts exactly where the fragment arrives, and has the same outcome otherwise.
The one place where a fragment can be lost is a style or script that holds elements: of its content
only the text is taken.

## Main definitions

* `renderItemsBy` — a step of the walk, with any way to set styles and scripts apart
* `renderWithout` — the walk that halts where a style or script makes a certain fragment
* `Produces` — a style or script makes a fragment somewhere in the walk over a document
* `Walk.Yields` — what holds of all results of a part of a walk
* `Walk.HaltsIf` — a second walk halts if the result has what is sought, and else has the same
* `Walk.HaltsAt` — the same for two walks to outputs and one fragment

## Main results

* `not_has_of_isFlat` — lists without elements give no fragments
* `renderItemsBy_haltsAt` — a step hands on all fragments that are made in it or below
* `produces_iff` — what is produced arrives, if no style or script that is set apart holds elements
-/

namespace ComponentMarkup

open Markup (Node isRawTextElement isVoidElement)
open Walk (Triple)

variable {f : Fragment}

/-! ### Fragments of outputs -/

namespace Output

/-- The output has the fragment. -/
def Has (f : Fragment) (o : Output) : Prop := f ∈ o.fragments

/-- No output at all. -/
def nothing : Output where
  pieces_nonempty := List.not_mem_nil

/-- A fragment without markup. -/
def ofFragment (g : Fragment) : Output where
  fragments := [g]
  pieces_nonempty := List.not_mem_nil

@[simp] theorem not_has_nothing : ¬ nothing.Has f := List.not_mem_nil

@[simp] theorem has_ofFragment (g : Fragment) : (ofFragment g).Has f ↔ f = g := List.mem_singleton

@[simp] theorem not_has_ofText (text : String) : ¬ (ofText text).Has f := List.not_mem_nil

/-- Output of markup and usages has no fragments. -/
@[simp] theorem not_has_mk {pieces : List String} (usages : List Usage) (nonempty : "" ∉ pieces) :
    ¬ (mk pieces [] usages nonempty).Has f := List.not_mem_nil

@[simp] theorem has_append (a b : Output) : (a ++ b).Has f ↔ a.Has f ∨ b.Has f := List.mem_append

@[simp] theorem has_withMarkup (o : Output) (text : String) :
    (o.withMarkup text).Has f ↔ o.Has f := .rfl

@[simp] theorem has_whole (o : Output) : o.whole.Has f ↔ o.Has f := .rfl

@[simp] theorem has_concat (os : List Output) : (concat os).Has f ↔ ∃ o ∈ os, o.Has f :=
  List.mem_flatMap

/-- Putting each markup in one piece loses no fragments. -/
theorem has_concat_split (os : List Output) (isSplit : Bool) :
    (concat (if isSplit then os.map whole else os)).Has f ↔ ∃ o ∈ os, o.Has f := by
  cases isSplit <;> simp

end Output

/-! ### A step of the walk, with any way to set styles and scripts apart -/

/-- A way to set a style or script apart, by its context, kind and transforms. -/
abbrev Separator := Context → Node → AssetKind → List String → Walk Output

section By

-- These are the functions between a list and `renderAsset`, with a parameter for the latter.
variable (s : Setting) (apart : Separator) (inner : Renderer) (c : Context) (sink : Sink)

/-- An element that stands for no component, with a way to set it apart. -/
def renderOtherBy (n : Node) (tag : String) (attributes : List EvaluatedAttribute)
    (types : List String) : Walk Output :=
  let keeps := n.hasAttribute "webc:keep"
  if n.hasTag "slot" && c.caller.isSome && !keeps then renderSlot inner c sink n
  else match assetKind? n with
    | some kind =>
      if keeps then renderPlain s inner c sink n tag attributes types
      else apart c n kind types
    | none => renderPlain s inner c sink n tag attributes types

/-- An element, once. -/
def renderInstanceBy (i : Item) : Walk Output :=
  if isSetupScript i.node then pure .nothing
  else do
    followImport s c i.node
    let types := transformTypes i.node
    if isRenderType types then renderScripted inner c sink i.node
    else do
      let attributes ← Walk.of (attributesOf i c)
      match ← componentOf i.node with
      | some d => renderComponent inner c sink i.node (tagOf i.node) d attributes
      | none => renderOtherBy s apart inner c sink i.node (tagOf i.node) attributes types

/-- An element, in one iteration of its loop. -/
def renderRowBy (i : Item) (row : Entries Value) : Walk Output := do
  let holds ← Walk.of (passes i.node (c.withLocals row))
  if holds then renderInstanceBy s apart inner (c.withLocals row) sink i else pure .nothing

/-- An element, as often as its loop says. -/
def renderElementBy (i : Item) : Walk Output :=
  match i.node.attribute? "webc:for" with
  | none => renderInstanceBy s apart inner c sink i
  | some value => do
    let rows ← Walk.of (rowsOf value c)
    let outputs ← Walk.each (renderRowBy s apart inner c sink i) rows
    pure (.concat outputs)

/-- A node. -/
def renderItemBy (i : Item) : Walk Output :=
  match i.node with
  | .document nodes => inner c sink (itemsOf nodes)
  | .doctype name => pure (.ofText (renderDoctype name))
  | .text value => pure (.ofText (renderText c.rawText value))
  | .comment value => pure (.ofText (renderComment value))
  | .element .. =>
    if c.raw then renderVerbatim inner c sink i.node else renderElementBy s apart inner c sink i

end By

/-- A step of the walk, with a way to set styles and scripts apart. -/
def renderItemsBy (s : Setting) (apart : Separator) (inner : Renderer) : Renderer :=
  fun c sink items => do
    let kept ← Walk.of (scheduleItems c items)
    let outputs ← Walk.each (renderItemBy s apart inner c sink) kept
    let isSplit := s.isConcurrent && sink == .text && kept.length > 1
    pure (.concat (if isSplit then outputs.map Output.whole else outputs))

/-- With its own way to set styles and scripts apart, the step is that of the walk. -/
theorem renderItems_eq_renderItemsBy (s : Setting) (inner : Renderer) :
    renderItems s inner = renderItemsBy s (renderAsset s inner) inner := rfl

/-! ### The walk that halts at a fragment -/

/-- The part that halts. -/
def Walk.halt {α : Type} : Walk α := fun _ => .error .tooDeep

/-- A way to set styles and scripts apart that halts where the text of one is not blank and makes
the fragment. -/
def separateUnless (s : Setting) (f : Fragment) (inner : Renderer) : Separator :=
  fun c n kind types => do
    let content ← inner (c.nested c.raw true c.bucket) .text (itemsOf n.children)
    let text ← Walk.of (applyTransforms types content.markup c.scopeId s.transforms c.file)
    let made : Fragment := ⟨kind, c.owner, (bucketOf n c).getD s.defaultBucket, text⟩
    if isBlankText text then pure .nothing
    else if f = made then Walk.halt
    else pure (.ofFragment made)

/-- The walk that halts where a style or script makes the fragment, at whatever depth. -/
def renderWithout (s : Setting) (f : Fragment) : Nat → Renderer
  | 0 => render s 0
  | depth + 1 =>
    renderItemsBy s (separateUnless s f (renderWithout s f depth)) (renderWithout s f depth)

/-- Some style or script that is set apart in a walk over a document makes the fragment, be it in
the document itself or far below, in whatever component: the walk has another outcome if it halts
there. -/
def Produces (s : Setting) (depth : Nat) (root : Component) (sink : Sink) (p : Progress)
    (f : Fragment) : Prop :=
  renderWithout s f depth (.ofRoot root s.sources.data) sink (itemsOf root.tree.children)
    { p with graph := p.graph.addNode root.path } ≠ renderRoot s depth root sink p

/-! ### Results of walks -/

namespace Walk

variable {α β : Type} {P : α → Prop} {Q : β → Prop} {w v : Walk α} {k k' : α → Walk β}

/-- All results of a walk have the property. -/
def Yields (P : α → Prop) (w : Walk α) : Prop := ∀ p a q, w p = .ok (a, q) → P a

namespace Yields

theorem pure {a : α} (holds : P a) : Yields P (Walk.pure a) := by
  intro p b q ran
  obtain ⟨rfl, rfl⟩ := Prod.mk.inj (Except.ok.inj ran)
  exact holds

theorem bind (first : Yields P w) (next : ∀ a, P a → Yields Q (k a)) :
    Yields Q (Walk.bind w k) := by
  intro p b q ran
  obtain ⟨a, p', here, rest⟩ := exists_of_bind_eq_ok ran
  exact next a (first p a p' here) p' b q rest

/-- What follows a walk, whatever it results in. -/
theorem bind_any (next : ∀ a, Yields Q (k a)) : Yields Q (Walk.bind w k) :=
  bind (P := fun _ => True) (fun _ _ _ _ => trivial) fun a _ => next a

/-- A result gives no other. -/
theorem of (r : Compiled α) : Yields (fun a => r = .ok a) (Walk.of r) :=
  fun _ _ _ ran => (of_eq_ok.mp ran).1

theorem each {as : List α} (step : ∀ a ∈ as, Yields Q (k a)) :
    Yields (fun bs => ∀ b ∈ bs, Q b) (Walk.each k as) := by
  induction as with
  | nil => exact pure nofun
  | cons a as ih =>
    refine bind (step a List.mem_cons_self) fun b hb => ?_
    refine bind (ih fun a' ha' => step a' (List.mem_cons_of_mem a ha')) fun bs hbs => ?_
    exact pure (List.forall_mem_cons.mpr ⟨hb, hbs⟩)

end Yields

/-! ### Walks that halt -/

variable {supplied : Component → Prop} {has : α → Prop} {has' : β → Prop}

/-- From any start from which the first walk has a result, the second walk halts if the result has
what is sought. If not, the second walk has the same result, and only components that are supplied
become known. -/
def HaltsIf (supplied : Component → Prop) (has : α → Prop) (w v : Walk α) : Prop :=
  ∀ p a q, (p.registry.Holds fun _ => supplied) → w p = .ok (a, q) →
    (has a ∧ ∃ h, v p = .error h) ∨
      (¬ has a ∧ v p = .ok (a, q) ∧ q.registry.Holds fun _ => supplied)

namespace HaltsIf

theorem pure {a : α} (lacks : ¬ has a) : HaltsIf supplied has (Walk.pure a) (Walk.pure a) := by
  intro p b q known ran
  obtain ⟨rfl, rfl⟩ := Prod.mk.inj (Except.ok.inj ran)
  exact .inr ⟨lacks, rfl, known⟩

theorem fail (e : CompileError) : HaltsIf supplied has (Walk.fail e) (Walk.fail e : Walk α) :=
  fun _ _ _ _ impossible => nomatch impossible

theorem halt {a : α} (found : has a) : HaltsIf supplied has (Walk.pure a) Walk.halt := by
  intro p b q _ ran
  obtain ⟨rfl, rfl⟩ := Prod.mk.inj (Except.ok.inj ran)
  exact .inl ⟨found, _, rfl⟩

/-- One part after another. Where the first result has what is sought, the whole must have it. -/
theorem bind (first : HaltsIf supplied has w v)
    (next : ∀ a, ¬ has a → HaltsIf supplied has' (k a) (k' a))
    (passes : ∀ a, has a → Yields has' (k a)) :
    HaltsIf supplied has' (Walk.bind w k) (Walk.bind v k') := by
  intro p b q known ran
  obtain ⟨a, p', here, rest⟩ := exists_of_bind_eq_ok ran
  rcases first p a p' known here with ⟨found, h, halts⟩ | ⟨lacks, same, known⟩
  · exact .inl ⟨passes a found p' b q rest, h, by simp only [Walk.bind, halts]⟩
  · have outcome := next a lacks p' b q known rest
    simpa only [Walk.bind, same] using outcome

/-- What follows a part that both walks have. -/
theorem bind_same {Q : α → Prop}
    (first : Triple ⟨supplied, True⟩ (fun _ => True) w w fun a _ => Q a)
    (next : ∀ a, Q a → HaltsIf supplied has' (k a) (k' a)) :
    HaltsIf supplied has' (Walk.bind w k) (Walk.bind w k') := by
  intro p b q known ran
  obtain ⟨a, p', here, rest⟩ := exists_of_bind_eq_ok ran
  have settled := (first.outcome p known trivial).2
  rw [here] at settled
  cases settled with
  | ok known post =>
    have outcome := next a post p' b q known rest
    simpa only [Walk.bind, here] using outcome

/-- What follows a result. -/
theorem of {r : Compiled α} (next : ∀ a, r = .ok a → HaltsIf supplied has' (k a) (k' a)) :
    HaltsIf supplied has' (Walk.bind (Walk.of r) k) (Walk.bind (Walk.of r) k') :=
  bind_same (Q := fun a => r = .ok a) (.of r fun _ result _ _ => result) next

/-- A result that is put into another. -/
theorem map {g : α → β} (first : HaltsIf supplied has w v) (passes : ∀ a, has' (g a) ↔ has a) :
    HaltsIf supplied has' (Walk.bind w fun a => Walk.pure (g a))
      (Walk.bind v fun a => Walk.pure (g a)) :=
  bind first (fun a lacks => .pure (mt (passes a).mp lacks))
    fun a found => .pure ((passes a).mpr found)

theorem ite {c : Prop} [Decidable c] {w' v' : Walk α} (yes : c → HaltsIf supplied has w v)
    (no : ¬ c → HaltsIf supplied has w' v') :
    HaltsIf supplied has (if c then w else w') (if c then v else v') := by
  by_cases h : c
  · simpa only [if_pos h] using yes h
  · simpa only [if_neg h] using no h

theorem each {as : List α} (step : ∀ a ∈ as, HaltsIf supplied has' (k a) (k' a)) :
    HaltsIf supplied (fun bs => ∃ b ∈ bs, has' b) (Walk.each k as) (Walk.each k' as) := by
  induction as with
  | nil => exact pure (by simp)
  | cons a as ih =>
    refine bind (step a List.mem_cons_self) (fun b lacks => ?_) fun b found => ?_
    · exact (ih fun a' ha' => step a' (List.mem_cons_of_mem a ha')).map fun bs => by simp [lacks]
    · exact .bind_any fun bs => .pure ⟨b, List.mem_cons_self, found⟩

/-- Output that is put into another with all its fragments and no others. -/
theorem wrap {w v : Walk Output} {g : Output → Output}
    (first : HaltsIf supplied (Output.Has f) w v) (passes : ∀ o, (g o).Has f ↔ o.Has f) :
    HaltsIf supplied (Output.Has f) (Walk.bind w fun o => Walk.pure (g o))
      (Walk.bind v fun o => Walk.pure (g o)) :=
  first.map passes

/-- Outputs that are put together with all their fragments and no others. -/
theorem gather {k k' : α → Walk Output} {as : List α} {g : List Output → Output}
    (step : ∀ a ∈ as, HaltsIf supplied (Output.Has f) (k a) (k' a))
    (passes : ∀ os, (g os).Has f ↔ ∃ o ∈ os, o.Has f) :
    HaltsIf supplied (Output.Has f) (Walk.bind (Walk.each k as) fun os => Walk.pure (g os))
      (Walk.bind (Walk.each k' as) fun os => Walk.pure (g os)) :=
  (each step).map passes

end HaltsIf

/-- The second walk halts where the first gives the fragment, and else has the same result. -/
abbrev HaltsAt (supplied : Component → Prop) (f : Fragment) (w v : Walk Output) : Prop :=
  HaltsIf supplied (Output.Has f) w v

end Walk

open Walk (HaltsAt HaltsIf Yields)

/-! ### Lists without elements -/

/-- Lists without elements give no fragments. -/
theorem not_has_of_isFlat {s : Setting} (depth : Nat) (c : Context) (sink : Sink)
    {items : List Item} (flat : ∀ i ∈ items, i.isFlat = true) :
    (render s depth c sink items).Yields fun o => ¬ o.Has f := by
  induction depth generalizing c items with
  | zero => exact fun _ _ _ impossible => nomatch impossible
  | succ depth ih =>
    have item : ∀ i ∈ items, (renderItem s (render s depth) c sink i).Yields
        fun o => ¬ o.Has f := by
      intro i listed
      obtain ⟨noElement, below⟩ := flat_of_isFlat (flat i listed)
      unfold renderItem
      split
      · rename_i isDocument
        rw [isDocument] at below
        exact ih c below
      · exact .pure (Output.not_has_ofText _)
      · exact .pure (Output.not_has_ofText _)
      · exact .pure (Output.not_has_ofText _)
      · rename_i isElement
        rw [isElement] at noElement
        exact nomatch noElement
    refine .bind (.of _) fun kept scheduled => ?_
    have listed := (sublist_of_scheduleItems scheduled).subset
    refine .bind (.each fun i hi => item i (listed hi)) fun os silent => .pure ?_
    rw [Output.has_concat_split]
    exact fun ⟨o, given, has⟩ => silent o given has

/-- A renderer that gives no fragment for lists without elements. -/
def Renderer.Silent (r : Renderer) (f : Fragment) : Prop :=
  ∀ c sink {items : List Item}, (∀ i ∈ items, i.isFlat = true) →
    (r c sink items).Yields fun o => ¬ o.Has f

/-! ### Steps of rendering -/

/-- The second renderer of a list halts where the first gives the fragment. -/
def Renderer.HaltsAt (supplied : Component → Prop) (f : Fragment) (r r' : Renderer)
    (c : Context) (items : List Item) : Prop :=
  ∀ sink, Walk.HaltsAt supplied f (r c sink items) (r' c sink items)

section Steps

variable {inner inner' : Renderer} {s : Setting} {supplied : Component → Prop}
  (supplies : Supplies s supplied) {c : Context} (sink : Sink) {i : Item}

theorem renderContent_haltsAt (children : List Node) (directive : Option Markup.Attribute)
    (data : Cascade) (plain : inner.HaltsAt supplied f inner' c (itemsOf children))
    (html : ∀ a v, directive = some a → a.name = "@html" →
      evaluateExpression a.value ("attribute `" ++ a.name ++ "`") data c.file = .ok v →
      inner.HaltsAt supplied f inner' c (itemsOf (Markup.parseTemplate v.display).children)) :
    HaltsAt supplied f (renderContent inner children directive data c sink)
      (renderContent inner' children directive data c sink) := by
  cases directive with
  | none => exact plain sink
  | some a =>
    refine .of fun v value => .ite (fun _ => .pure (Output.not_has_ofText _)) fun _ => ?_
    refine .ite (fun isHtml => ?_) fun _ => .pure (Output.not_has_ofText _)
    have named : a.name = "@html" := by simpa using (Bool.and_eq_true_iff.mp isHtml).1
    exact html a v rfl named value sink

/-- Transforms see the markup only, and the fragments are handed on. -/
theorem renderTransformed_haltsAt (types : List String) {content content' : Sink → Walk Output}
    (below : ∀ sink, HaltsAt supplied f (content sink) (content' sink)) :
    HaltsAt supplied f (renderTransformed s types c sink content)
      (renderTransformed s types c sink content') := by
  refine .ite (fun _ => below sink) fun _ => ?_
  refine .bind (below .text) (fun o lacks => .of fun text _ => ?_) fun o found => ?_
  · exact .pure (mt (Output.has_withMarkup o text).mp lacks)
  · exact .bind_any fun text => .pure ((Output.has_withMarkup o text).mpr found)

section HandsOn

variable (calls : ∀ c' items, HandsOn s supplied c i c' items →
  inner.HaltsAt supplied f inner' c' items)

include calls

theorem renderPlain_haltsAt {attributes : List EvaluatedAttribute}
    (evaluated : attributesOf i c = .ok attributes) (types : List String) :
    HaltsAt supplied f
      (renderPlain s inner c sink i.node (tagOf i.node) attributes types)
      (renderPlain s inner' c sink i.node (tagOf i.node) attributes types) := by
  refine .of fun directive found => .ite (fun _ => .pure (Output.not_has_ofText _)) fun _ => ?_
  refine .wrap (renderTransformed_haltsAt sink types fun sink => ?_) fun o => by simp
  refine renderContent_haltsAt sink _ _ _ (calls _ _ .children) ?_
  intro a v isDirective isHtml value
  subst isDirective
  exact calls _ _ (.html found isHtml evaluated value)

theorem renderSlot_haltsAt :
    HaltsAt supplied f (renderSlot inner c sink i.node) (renderSlot inner' c sink i.node) := by
  unfold renderSlot
  split
  · rename_i found
    exact calls _ _ (.slot found) sink
  · exact calls _ _ .fallback sink

/-- A style or script throws away what the list below it gives; that is nothing if it holds text
only. Its own fragment is given, if its text is not blank. -/
theorem renderAsset_haltsAt (kind : AssetKind) (types : List String)
    (nothing : (inner (c.nested c.raw true c.bucket) .text (itemsOf i.node.children)).Yields
      fun o => ¬ o.Has f) :
    HaltsAt supplied f (renderAsset s inner c i.node kind types)
      (separateUnless s f inner' c i.node kind types) := by
  have content : HaltsIf supplied (fun _ => False)
      (inner (c.nested c.raw true c.bucket) .text (itemsOf i.node.children))
      (inner' (c.nested c.raw true c.bucket) .text (itemsOf i.node.children)) := by
    intro p o q known ran
    rcases calls _ _ .asset .text p o q known ran with ⟨found, _⟩ | ⟨_, same, known⟩
    · exact absurd found (nothing p o q ran)
    · exact .inr ⟨id, same, known⟩
  refine .bind content (fun o _ => ?_) fun o => False.elim
  refine .of fun text _ => .ite (fun _ => .pure Output.not_has_nothing) fun _ => ?_
  let made : Fragment := ⟨kind, c.owner, (bucketOf i.node c).getD s.defaultBucket, text⟩
  by_cases same : f = made
  · rw [if_pos same]
    exact .halt ((Output.has_ofFragment made).mpr same)
  · rw [if_neg same]
    exact .pure (mt (Output.has_ofFragment made).mp same)

theorem renderScripted_haltsAt (types : isRenderType (transformTypes i.node) = true) :
    HaltsAt supplied f (renderScripted inner c sink i.node)
      (renderScripted inner' c sink i.node) := by
  refine .of fun v result => .ite (fun _ => .pure (Output.not_has_ofText _)) fun _ => ?_
  exact calls _ _ (.scripted types (Compiled.mapError_eq_ok.mp result)) sink

/-- The fragments of the template come before those of the content that was handed over. -/
theorem renderComponent_haltsAt {d : Component} {attributes : List EvaluatedAttribute}
    (isSupplied : supplied d) (evaluated : attributesOf i c = .ok attributes) :
    HaltsAt supplied f
      (renderComponent inner c sink i.node (tagOf i.node) d attributes)
      (renderComponent inner' c sink i.node (tagOf i.node) d attributes) := by
  refine .ite (fun _ => .fail _) fun isFresh => ?_
  have fresh : d.path ∉ c.ancestry := by simpa using isFresh
  refine .bind_same (Q := fun _ => True) ?_ fun _ _ => .of fun onHost host => ?_
  · exact .of_graph fun g _ => (Triple.recordUsage _ g).mono fun _ _ _ => trivial
  · refine .bind (calls _ _ (.template isSupplied fresh evaluated rfl host) .text) ?_ ?_
    · intro o lacks
      have light : HaltsAt supplied f (renderLight inner c sink i.node d o)
          (renderLight inner' c sink i.node d o) :=
        .ite (fun _ => calls _ _ .light sink) fun _ => .pure Output.not_has_nothing
      exact light.wrap fun l => by simp [lacks]
    · exact fun o found => .bind_any fun l => .pure (by simp [found])

theorem renderOtherBy_haltsAt (silent : inner.Silent f) (holdsText : holdsElements i.node = false)
    {attributes : List EvaluatedAttribute} (evaluated : attributesOf i c = .ok attributes)
    (types : List String) :
    HaltsAt supplied f
      (renderOtherBy s (renderAsset s inner) inner c sink i.node (tagOf i.node) attributes types)
      (renderOtherBy s (separateUnless s f inner') inner' c sink i.node (tagOf i.node) attributes
        types) := by
  have plain := renderPlain_haltsAt sink calls evaluated types
  refine .ite (fun _ => renderSlot_haltsAt sink calls) fun _ => ?_
  cases isAsset : assetKind? i.node with
  | none => exact plain
  | some kind =>
    refine .ite (fun _ => plain) fun keeps => ?_
    refine renderAsset_haltsAt calls kind types (silent _ _ fun j listed => ?_)
    have none : Node.anyOfAll Node.isElement i.node.children = false := by
      simpa [holdsElements, isAsset, keeps] using holdsText
    exact isFlat_of_mem_itemsOf none listed

include supplies in
theorem renderInstanceBy_haltsAt (silent : inner.Silent f)
    (holdsText : holdsElements i.node = false) :
    HaltsAt supplied f (renderInstanceBy s (renderAsset s inner) inner c sink i)
      (renderInstanceBy s (separateUnless s f inner') inner' c sink i) := by
  refine .ite (fun _ => .pure Output.not_has_nothing) fun _ => ?_
  refine .bind_same (Q := fun _ => True) ?_ fun _ _ => ?_
  · exact (followImport_triple supplies i.node).mono fun _ _ _ => trivial
  refine .ite (fun types => renderScripted_haltsAt sink calls types) fun _ => ?_
  refine .of fun attributes evaluated => ?_
  refine .bind_same (Q := fun d? => ∀ d, d? = some d → supplied d) ?_ fun d? isSupplied => ?_
  · exact (componentOf_triple i.node).mono fun _ _ known => known.2
  cases d? with
  | none => exact renderOtherBy_haltsAt sink calls silent holdsText evaluated _
  | some d => exact renderComponent_haltsAt sink calls (isSupplied d rfl) evaluated

end HandsOn

variable (calls : ∀ c' items, Calls s supplied c i c' items →
    inner.HaltsAt supplied f inner' c' items)
  (silent : inner.Silent f) (holdsText : c.raw = false → holdsElements i.node = false)

include supplies calls silent holdsText

/-- An element, in all iterations of its loop if it has one. -/
theorem renderElementBy_haltsAt (interpreted : c.raw = false) (element : i.node.isElement = true) :
    HaltsAt supplied f (renderElementBy s (renderAsset s inner) inner c sink i)
      (renderElementBy s (separateUnless s f inner') inner' c sink i) := by
  have text := holdsText interpreted
  unfold renderElementBy
  split
  · rename_i noLoop
    exact renderInstanceBy_haltsAt supplies sink
      (fun c' items handsOn => calls c' items (.once interpreted element noLoop handsOn))
      silent text
  · rename_i value loops
    refine .of fun rows expanded => .gather (fun row isRow => ?_) Output.has_concat
    refine .of fun holds _ => .ite (fun _ => ?_) fun _ => .pure Output.not_has_nothing
    exact renderInstanceBy_haltsAt supplies sink (fun c' items handsOn =>
      calls c' items (.iteration interpreted element loops expanded isRow handsOn)) silent text

theorem renderItemBy_haltsAt :
    HaltsAt supplied f (renderItemBy s (renderAsset s inner) inner c sink i)
      (renderItemBy s (separateUnless s f inner') inner' c sink i) := by
  unfold renderItemBy
  split
  · rename_i nodes isDocument
    exact calls c _ (.document isDocument) sink
  · exact .pure (Output.not_has_ofText _)
  · exact .pure (Output.not_has_ofText _)
  · exact .pure (Output.not_has_ofText _)
  · rename_i isElement
    have element : i.node.isElement = true := by rw [isElement]; rfl
    refine .ite (fun raw => ?_) fun interpreted => ?_
    · refine .ite (fun _ => .pure (Output.not_has_ofText _)) fun _ => ?_
      exact .wrap (calls _ _ (.verbatim raw) sink) fun o => by simp
    · exact renderElementBy_haltsAt supplies sink calls silent holdsText
        (by simpa using interpreted) element

end Steps

/-- A step hands on all fragments that its styles and scripts make and that the lists below give, if
no style or script that it sets apart holds elements. -/
theorem renderItemsBy_haltsAt {inner inner' : Renderer} {s : Setting} {supplied : Component → Prop}
    (supplies : Supplies s supplied) {c : Context} {items : List Item} (silent : inner.Silent f)
    (calls : ∀ i ∈ items, ∀ c' items', Calls s supplied c i c' items' →
      inner.HaltsAt supplied f inner' c' items')
    (holdText : AssetsHoldText s supplied c items) :
    (renderItemsBy s (renderAsset s inner) inner).HaltsAt supplied f
      (renderItemsBy s (separateUnless s f inner') inner') c items := by
  intro sink
  refine .of fun kept scheduled => ?_
  have listed := (sublist_of_scheduleItems scheduled).subset
  refine .gather (fun i hi => ?_) fun os => Output.has_concat_split os _
  exact renderItemBy_haltsAt supplies sink (fun c' items' => calls i (listed hi) c' items')
    silent fun interpreted => holdText.here interpreted (listed hi)

/-! ### Whole walks -/

section Walks

variable {s : Setting} {supplied : Component → Prop} {c : Context} {items : List Item}

/-- Where no style or script that is met and set apart holds elements, the walk that halts at the
fragment does so exactly if the fragment is in the output. -/
theorem render_haltsAt (supplies : Supplies s supplied) (depth : Nat)
    (holdText : AssetsHoldText s supplied c items) :
    (render s depth).HaltsAt supplied f (renderWithout s f depth) c items := by
  induction depth generalizing c items with
  | zero => exact fun _ _ _ _ _ impossible => nomatch impossible
  | succ depth ih =>
    rw [render, renderItems_eq_renderItemsBy]
    refine renderItemsBy_haltsAt supplies ?_ (fun i listed c' items' call => ?_) holdText
    · exact fun c sink items flat => not_has_of_isFlat depth c sink flat
    · exact ih (holdText.below listed call)

/-- What some style or script makes in a walk over a document is among the fragments of the
document, and nothing else is, if no style or script that is met and set apart holds elements. -/
theorem produces_iff (supplies : Supplies s supplied) {depth : Nat} {root : Component} {sink : Sink}
    {p q : Progress} {o : Output} (known : p.registry.Holds fun _ => supplied)
    (success : renderRoot s depth root sink p = .ok (o, q))
    (holdText : AssetsHoldText s supplied (.ofRoot root s.sources.data)
      (itemsOf root.tree.children)) :
    Produces s depth root sink p f ↔ f ∈ o.fragments := by
  have outcome := render_haltsAt (f := f) supplies depth holdText sink
    { p with graph := p.graph.addNode root.path } o q known success
  unfold Produces
  rw [success]
  rcases outcome with ⟨found, h, halts⟩ | ⟨lacks, same, _⟩
  · rw [halts]
    exact iff_of_true nofun found
  · rw [same]
    exact iff_of_false (not_not_intro rfl) lacks

end Walks

end ComponentMarkup
