import ComponentMarkup.Proofs.Render.Calls
import ComponentMarkup.Proofs.Render.Triple
import ComponentMarkup.Proofs.Usage.Log

/-!
# What a step of the walk owes to the lists below

A step of the walk renders the items of a list and hands the lists below to another renderer. Two
renderers that have the same outcomes on the lists that are handed on give steps with the same
outcomes. And if the log of usages in each output from below goes with the usage graph, then so does
the log of the step: usages come out in the order in which the graph accepted them, each after the
one that brought its owner in, and none is missing unless a style or script held elements.

## Main definitions

* `Walk.Logs` — the same outcome, and a log that goes with the graph
* `Renderer.Carries` — two renderers with the same outcomes on a list, and logs that go with the
  graph

## Main results

* `renderItems_carries` — a step carries what all lists that it hands on are carried by
-/

namespace ComponentMarkup

open Markup (Node isRawTextElement isVoidElement)
open UsageGraph (Kept)
open Walk (Proviso Triple)

variable {t : Proviso} {known : List String} {complete : Prop}

/-! ### Logs of parts of a walk -/

namespace Walk

/-- Output without usages, where nothing is recorded. -/
theorem Triple.written {quiet : Prop} {o : Output} (none : o.usages = []) (g : UsageGraph) :
    Triple t (· = g) (Walk.pure o) (Walk.pure o) fun o g' =>
      Kept known complete quiet g o.usages g' := by
  refine .pure fun g' same => ?_
  rw [same, none]
  exact .nil g

/-- Outputs for the elements of a list, one after another. -/
theorem Triple.outputs {α : Type} {f f' : α → Walk Output} {quiet : α → Prop} {as : List α}
    (step : ∀ a ∈ as, ∀ g, Triple t (· = g) (f a) (f' a) fun o g' =>
      Kept known complete (quiet a) g o.usages g') (g : UsageGraph) :
    Triple t (· = g) (Walk.each f as) (Walk.each f' as) fun os g' =>
      Kept known complete (∀ a ∈ as, quiet a) g (os.flatMap Output.usages) g' := by
  -- What is asked of the whole list, that nothing is recorded for it, is asked of each element.
  induction as generalizing g with
  | nil =>
    refine .pure fun g' same => ?_
    rw [same]
    exact .nil g
  | cons a as ih =>
    have rest := ih fun b hb => step b (List.mem_cons_of_mem a hb)
    refine .bind (step a List.mem_cons_self g) fun o => .of_graph fun g' first => ?_
    refine .bind (rest g') fun os => .pure fun g'' others => ?_
    have head := first.mono (List.Subset.refl _) id
      fun h : ∀ b ∈ a :: as, quiet b => h a List.mem_cons_self
    have tail := others.mono (List.Subset.refl _) id
      fun (h : ∀ b ∈ a :: as, quiet b) b hb => h b (List.mem_cons_of_mem a hb)
    exact head.append tail

/-- From each graph the same outcome, and an output whose log goes with what was recorded. -/
def Logs (t : Proviso) (known : List String) (complete : Prop) (w v : Walk Output) : Prop :=
  ∀ g, Triple t (· = g) w v fun o g' => Kept known complete False g o.usages g'

namespace Logs

variable {α : Type} {w v : Walk Output}

/-- Output without usages. -/
theorem pure {o : Output} (none : o.usages = []) :
    Logs t known complete (Walk.pure o) (Walk.pure o) :=
  fun g => Triple.written none g

theorem fail (e : CompileError) : Logs t known complete (Walk.fail e) (Walk.fail e) :=
  fun _ => .fail e

/-- What follows a result. -/
theorem of {r : Compiled α} {f f' : α → Walk Output}
    (next : ∀ a, r = .ok a → Logs t known complete (f a) (f' a)) :
    Logs t known complete (Walk.bind (Walk.of r) f) (Walk.bind (Walk.of r) f') :=
  fun g => .bind_of fun a result => next a result g

/-- Output that is put into another without usages of its own. -/
theorem map {f : Output → Output} (first : Logs t known complete w v)
    (same : ∀ o, (f o).usages = o.usages) :
    Logs t known complete (Walk.bind w fun o => Walk.pure (f o))
      (Walk.bind v fun o => Walk.pure (f o)) :=
  fun g => .bind (first g) fun o => .pure fun _ kept => (same o).symm ▸ kept

theorem ite {c : Prop} [Decidable c] {w' v' : Walk Output} (yes : c → Logs t known complete w v)
    (no : ¬ c → Logs t known complete w' v') :
    Logs t known complete (if c then w else w') (if c then v else v') :=
  fun g => .ite (fun h => yes h g) fun h => no h g

end Logs

end Walk

open Walk (Logs)

/-! ### Renderers of the lists below -/

/-- Two renderers with the same outcomes on a list, and logs that go with what was recorded. Where
nothing is an element, nothing is recorded. -/
def Renderer.Carries (t : Proviso) (complete : Prop) (r r' : Renderer) (c : Context)
    (items : List Item) : Prop :=
  ∀ sink g, Triple t (· = g) (r c sink items) (r' c sink items) fun o g' =>
    Kept c.owners complete (∀ i ∈ items, i.isFlat = true) g o.usages g'

/-- What is carried below is part of the log of an element. -/
theorem Renderer.Carries.logs {r r' : Renderer} {c : Context} {items : List Item}
    (carries : r.Carries t complete r' c items) (le : c.owners ⊆ known) (sink : Sink) :
    Logs t known complete (r c sink items) (r' c sink items) :=
  fun g => (carries sink g).mono fun _ _ kept => kept.mono le id False.elim

/-! ### Steps of rendering -/

section Steps

variable {inner inner' : Renderer} (s : Setting) (c : Context) (sink : Sink)

theorem renderContent_logs (children : List Node) (directive : Option Markup.Attribute)
    (data : Cascade)
    (plain : Logs t known complete (inner c sink (itemsOf children))
      (inner' c sink (itemsOf children)))
    (html : ∀ a v, directive = some a → a.name = "@html" →
      evaluateExpression a.value ("attribute `" ++ a.name ++ "`") data c.file = .ok v →
      Logs t known complete (inner c sink (itemsOf (Markup.parseTemplate v.display).children))
        (inner' c sink (itemsOf (Markup.parseTemplate v.display).children))) :
    Logs t known complete (renderContent inner children directive data c sink)
      (renderContent inner' children directive data c sink) := by
  cases directive with
  | none => exact plain
  | some a =>
    refine .of fun v value => .ite (fun _ => .pure rfl) fun _ => ?_
    refine .ite (fun isHtml => ?_) fun _ => .pure rfl
    have named : a.name = "@html" := by simpa using (Bool.and_eq_true_iff.mp isHtml).1
    exact html a v rfl named value

theorem renderTransformed_logs (types : List String) {content content' : Sink → Walk Output}
    (below : ∀ sink, Logs t known complete (content sink) (content' sink)) :
    Logs t known complete (renderTransformed s types c sink content)
      (renderTransformed s types c sink content') := by
  refine .ite (fun _ => below sink) fun _ g => .bind (below .text g) fun o => ?_
  -- The transforms change the markup and leave the usages as they are.
  refine .bind (.of _ fun _ _ _ kept => kept) fun text => .pure fun _ kept => kept

theorem renderPlain_logs (n : Node) (tag : String) (attributes : List EvaluatedAttribute)
    (types : List String)
    (content : ∀ sink directive, contentDirective n tag c.file = .ok directive →
      Logs t known complete
        (renderContent inner (renderedChildren n) directive
          (c.data.withOwn (cascadeEntries attributes))
          (c.nested (hasRawChildren n) (isRawTextElement tag) (bucketOf n c)) sink)
        (renderContent inner' (renderedChildren n) directive
          (c.data.withOwn (cascadeEntries attributes))
          (c.nested (hasRawChildren n) (isRawTextElement tag) (bucketOf n c)) sink)) :
    Logs t known complete (renderPlain s inner c sink n tag attributes types)
      (renderPlain s inner' c sink n tag attributes types) := by
  refine .of fun directive found => .ite (fun _ => .pure rfl) fun _ => ?_
  refine .map (renderTransformed_logs s c sink types fun sink => content sink directive found) ?_
  intro o
  simp

theorem renderVerbatim_logs (n : Node)
    (content : Logs t known complete
      (inner (c.nested true (isRawTextElement (n.tag?.getD "")) c.bucket) sink
        (itemsOf (renderedChildren n)))
      (inner' (c.nested true (isRawTextElement (n.tag?.getD "")) c.bucket) sink
        (itemsOf (renderedChildren n)))) :
    Logs t known complete (renderVerbatim inner c sink n) (renderVerbatim inner' c sink n) := by
  refine .ite (fun _ => .pure rfl) fun _ => .map content fun o => ?_
  simp

theorem renderSlot_logs (n : Node)
    (found : ∀ k nodes, c.slotContent? ((n.attribute? "name").getD defaultSlot) = some (k, nodes) →
      Logs t known complete (inner k sink (itemsOf nodes)) (inner' k sink (itemsOf nodes)))
    (fallback : Logs t known complete (inner c sink (itemsOf n.children))
      (inner' c sink (itemsOf n.children))) :
    Logs t known complete (renderSlot inner c sink n) (renderSlot inner' c sink n) := by
  unfold renderSlot
  split
  · rename_i k nodes isContent
    exact found k nodes isContent
  · exact fallback

/-- A style or script throws the usages below it away; there are none if it holds text only. -/
theorem renderAsset_logs (n : Node) (kind : AssetKind) (types : List String)
    (content : inner.Carries t complete inner' (c.nested c.raw true c.bucket) (itemsOf n.children))
    (flat : complete → ∀ i ∈ itemsOf n.children, i.isFlat = true) :
    Logs t known complete (renderAsset s inner c n kind types)
      (renderAsset s inner' c n kind types) := by
  intro g
  refine .bind (content .text g) fun o => ?_
  -- From here on only the text is left of the output.
  refine .bind (.of _ fun _ _ _ kept => kept) fun text => ?_
  exact .ite (fun _ => .pure fun _ kept => kept.discard flat)
    fun _ => .pure fun _ kept => kept.discard flat

theorem renderScripted_logs (n : Node)
    (scripted : ∀ v, Script.evaluateDefault (scriptSource n) c.data = .ok v →
      Logs t known complete (inner c sink (itemsOf (Markup.parseTemplate v.display).children))
        (inner' c sink (itemsOf (Markup.parseTemplate v.display).children))) :
    Logs t known complete (renderScripted inner c sink n) (renderScripted inner' c sink n) := by
  refine .of fun v result => .ite (fun _ => .pure rfl) fun _ => ?_
  exact scripted v (Compiled.mapError_eq_ok.mp result)

theorem renderLight_logs (host : Node) (d : Component) (o : Output)
    (light : Logs t known complete (inner c.asSlotContent sink (itemsOf host.children))
      (inner' c.asSlotContent sink (itemsOf host.children))) :
    Logs t known complete (renderLight inner c sink host d o)
      (renderLight inner' c sink host d o) :=
  .ite (fun _ => light) fun _ => .pure rfl

/-- An instance is logged before all that its template and the content handed to it use. -/
theorem renderComponent_logs (host : Node) (tag : String) (d : Component)
    (attributes : List EvaluatedAttribute) (owner : c.owner ∈ known)
    (template : ∀ onHost, d.path ∉ c.ancestry →
      hostAttributes d (c.data.forComponent d.path d.setup (cascadeEntries attributes)
        (rawEntries attributes)) attributes = .ok onHost →
      inner.Carries t complete inner'
        (c.forInstance d (c.data.forComponent d.path d.setup (cascadeEntries attributes)
          (rawEntries attributes)) (bucketOf host c) host.children) (instanceItems d onHost))
    (light : Logs t known complete (inner c.asSlotContent sink (itemsOf host.children))
      (inner' c.asSlotContent sink (itemsOf host.children))) (le : c.owners ⊆ known) :
    Logs t known complete (renderComponent inner c sink host tag d attributes)
      (renderComponent inner' c sink host tag d attributes) := by
  refine .ite (fun _ => .fail _) fun isFresh g => ?_
  have fresh : d.path ∉ c.ancestry := by simpa using isFresh
  -- The usage is recorded first, so it comes before all that the template and the content use.
  refine .bind (.recordUsage _ g) fun _ => .of_graph fun g' accepted => ?_
  refine .bind_of fun onHost host_eq => ?_
  refine .bind (template onHost fresh host_eq .text g') fun o => .of_graph fun h inside => ?_
  refine .bind (renderLight_logs c sink host d o light h) fun l => .pure fun h' after => ?_
  rw [Context.owners_forInstance] at inside
  -- From here on the component is one that usages can belong to.
  have both : Kept (d.path :: known) complete False g' (o.usages ++ l.usages) h' :=
    (inside.mono (List.cons_subset_cons _ le) id False.elim).append
      (after.mono (List.subset_cons_self ..) id id)
  have logged := both.cons accepted owner
  simpa using logged

end Steps

/-! ### Steps with all that they hand on -/

/-- What holds of all components that imports can build. -/
def Supplies (s : Setting) (supplied : Component → Prop) : Prop :=
  ∀ reference file path d, s.resolver.resolve reference file = .ok path →
    d.IsBuilt s.sources path none → supplied d

section Calls

variable {inner inner' : Renderer} {s : Setting} (supplies : Supplies s t.supplied) {c : Context}
  (sink : Sink) {i : Item}

include supplies in
theorem followImport_triple (n : Node) {P : UsageGraph → Prop} :
    Triple t P (followImport s c n) (followImport s c n) fun _ => P := by
  unfold followImport
  split
  · exact .pure fun _ pre => pre
  · exact .bind_of fun path resolved => .registerTag _ fun d => supplies _ _ path d resolved

theorem componentOf_triple (n : Node) {P : UsageGraph → Prop} :
    Triple t P (componentOf n) (componentOf n)
      fun d? g => P g ∧ ∀ d, d? = some d → t.supplied d :=
  .ite (fun _ => .pure fun _ pre => ⟨pre, fun _ impossible => nomatch impossible⟩)
    fun _ => .resolveTag _

section HandsOn

variable (calls : ∀ c' items, HandsOn s t.supplied c i c' items →
    inner.Carries t complete inner' c' items)
  (holdsText : complete → holdsElements i.node = false)

include calls in
theorem renderPlain_logs_of_calls {attributes : List EvaluatedAttribute}
    (evaluated : attributesOf i c = .ok attributes) (types : List String) :
    Logs t c.owners complete (renderPlain s inner c sink i.node (tagOf i.node) attributes types)
      (renderPlain s inner' c sink i.node (tagOf i.node) attributes types) := by
  refine renderPlain_logs s c sink _ _ _ _ fun sink directive found => ?_
  have le : ∀ raw rawText bucket, (c.nested raw rawText bucket).owners ⊆ c.owners := by simp
  refine renderContent_logs _ sink _ _ _ ?_ fun a v isDirective isHtml value => ?_
  · exact (calls _ _ .children).logs (le ..) sink
  · subst isDirective
    exact (calls _ _ (.html found isHtml evaluated value)).logs (le ..) sink

include calls holdsText in
theorem renderOther_logs {attributes : List EvaluatedAttribute}
    (evaluated : attributesOf i c = .ok attributes) (types : List String) :
    Logs t c.owners complete (renderOther s inner c sink i.node (tagOf i.node) attributes types)
      (renderOther s inner' c sink i.node (tagOf i.node) attributes types) := by
  have plain := renderPlain_logs_of_calls sink calls evaluated types
  refine .ite (fun _ => ?_) fun _ => ?_
  · refine renderSlot_logs c sink i.node (fun k nodes found => ?_) ?_
    · exact (calls _ _ (.slot found)).logs (Context.owners_subset_of_slotContent? found) sink
    · exact (calls _ _ .fallback).logs (List.Subset.refl _) sink
  · cases isAsset : assetKind? i.node with
    | none => exact plain
    | some kind =>
      refine .ite (fun _ => plain) fun keeps => ?_
      refine renderAsset_logs s c i.node kind types (calls _ _ .asset) fun isComplete => ?_
      have none : Node.anyOfAll Node.isElement i.node.children = false := by
        simpa [holdsElements, isAsset, keeps] using holdsText isComplete
      exact fun j listed => isFlat_of_mem_itemsOf none listed

include supplies calls holdsText in
theorem renderInstance_logs :
    Logs t c.owners complete (renderInstance s inner c sink i)
      (renderInstance s inner' c sink i) := by
  refine .ite (fun _ => .pure rfl) fun _ g => ?_
  refine .bind (followImport_triple supplies i.node) fun _ => ?_
  refine .ite (fun types => ?_) fun _ => .bind_of fun attributes evaluated => ?_
  · refine renderScripted_logs c sink i.node (fun v value => ?_) g
    exact (calls _ _ (.scripted types value)).logs (List.Subset.refl _) sink
  · refine .bind (componentOf_triple i.node) fun d? => .of_graph fun g' found => ?_
    obtain ⟨rfl, supplied⟩ := found
    cases d? with
    | none => exact renderOther_logs sink calls holdsText evaluated _ _
    | some d =>
      have light : Logs t c.owners complete (inner c.asSlotContent sink _)
          (inner' c.asSlotContent sink _) := (calls _ _ .light).logs (by simp) sink
      refine renderComponent_logs c sink i.node _ d attributes c.owner_mem_owners ?_ light
        (List.Subset.refl _) _
      intro onHost fresh host
      exact calls _ _ (.template (supplied d rfl) fresh evaluated rfl host)

end HandsOn

variable (calls : ∀ c' items, Calls s t.supplied c i c' items →
    inner.Carries t complete inner' c' items)
  (holdsText : complete → c.raw = false → holdsElements i.node = false)

include supplies calls holdsText in
/-- An element, in all iterations of its loop if it has one. -/
theorem renderElement_logs (interpreted : c.raw = false) (element : i.node.isElement = true) :
    Logs t c.owners complete (renderElement s inner c sink i)
      (renderElement s inner' c sink i) := by
  have text := fun isComplete => holdsText isComplete interpreted
  unfold renderElement
  split
  · rename_i noLoop
    exact renderInstance_logs supplies sink (fun c' items handsOn =>
      calls c' items (.once interpreted element noLoop handsOn)) text
  · rename_i value loops
    refine .of fun rows expanded g => ?_
    have row : ∀ row ∈ rows, Logs t c.owners complete (renderRow s inner c sink i row)
        (renderRow s inner' c sink i row) := by
      intro row isRow
      refine .of fun holds _ => .ite (fun _ => ?_) fun _ => .pure rfl
      have handsOn := fun c' items handsOn =>
        calls c' items (.iteration interpreted element loops expanded isRow handsOn)
      have once := renderInstance_logs (c := c.withLocals row) supplies sink handsOn text
      rwa [Context.owners_withLocals] at once
    refine (Triple.outputs row g).bind fun os => .pure fun g' logged => ?_
    exact logged.mono (List.Subset.refl _) id False.elim

include supplies calls holdsText in
/-- An item. Nothing is recorded below an item that is no element and has none below. -/
theorem renderItem_triple (g : UsageGraph) :
    Triple t (· = g) (renderItem s inner c sink i) (renderItem s inner' c sink i) fun o g' =>
      Kept c.owners complete (i.isFlat = true) g o.usages g' := by
  unfold renderItem
  split
  · rename_i nodes isDocument
    refine (calls c _ (.document isDocument) sink g).mono fun o g' kept => ?_
    refine kept.mono (List.Subset.refl _) id fun flat => ?_
    have below := (flat_of_isFlat flat).2
    rwa [isDocument] at below
  · exact .written rfl g
  · exact .written rfl g
  · exact .written rfl g
  · rename_i isElement
    have element : i.node.isElement = true := by rw [isElement]; rfl
    have logs : Logs t c.owners complete
        (if c.raw then renderVerbatim inner c sink i.node else renderElement s inner c sink i)
        (if c.raw then renderVerbatim inner' c sink i.node else renderElement s inner' c sink i) :=
      .ite (fun raw => renderVerbatim_logs c sink i.node
          ((calls _ _ (.verbatim raw)).logs (by simp) sink))
        fun interpreted =>
          renderElement_logs supplies sink calls holdsText (by simpa using interpreted) element
    refine (logs g).mono fun o g' kept => kept.mono (List.Subset.refl _) id fun flat => ?_
    exact nomatch element.symm.trans (flat_of_isFlat flat).1

end Calls

/-! ### Lists -/

theorem marked_sublist {α : Type} (xs : List α) (marks : List Bool) :
    (marked xs marks).Sublist xs := by
  induction xs generalizing marks with
  | nil => exact List.nil_sublist _
  | cons x xs ih =>
    cases marks with
    | nil => exact List.nil_sublist _
    | cons m marks =>
      cases m
      · exact (ih marks).cons x
      · exact (ih marks).cons_cons x

/-- Items that are rendered are items of the list. -/
theorem sublist_of_scheduleItems {c : Context} {items kept : List Item}
    (h : scheduleItems c items = .ok kept) : kept.Sublist items := by
  unfold scheduleItems at h
  split at h
  · obtain rfl := Except.ok.inj h
    exact .refl items
  · cases marks : schedule (items.map Item.node) c.data c.file with
    | error e => simp [marks, Except.map] at h
    | ok ms =>
      obtain rfl : marked items ms = kept := by simpa [marks, Except.map] using h
      exact marked_sublist items ms

/-- Putting each markup in one piece changes no usages. -/
theorem usages_concat_split (os : List Output) (isSplit : Bool) :
    (Output.concat (if isSplit then os.map Output.whole else os)).usages =
      os.flatMap Output.usages := by
  cases isSplit
  · rfl
  · simp [List.flatMap_map]

/-- A step carries a list if all that its items hand on is carried below. -/
theorem renderItems_carries {inner inner' : Renderer} {s : Setting}
    (supplies : Supplies s t.supplied) {c : Context} {items : List Item}
    (calls : ∀ i ∈ items, ∀ c' items', Calls s t.supplied c i c' items' →
      inner.Carries t (AssetsHoldText s t.supplied c' items') inner' c' items') :
    (renderItems s inner).Carries t (AssetsHoldText s t.supplied c items)
      (renderItems s inner') c items := by
  intro sink g
  refine .bind_of fun kept scheduled => ?_
  -- Conditions leave items out and add none, so all that is rendered may be met.
  have listed := (sublist_of_scheduleItems scheduled).subset
  have item : ∀ i ∈ kept, ∀ g, Triple t (· = g) (renderItem s inner c sink i)
      (renderItem s inner' c sink i) fun o g' => Kept c.owners
        (AssetsHoldText s t.supplied c items) (i.isFlat = true) g o.usages g' := by
    intro i hi g
    refine renderItem_triple supplies sink (fun c' items' call sink g => ?_)
      (fun text interpreted => text.here interpreted (listed hi)) g
    exact (calls i (listed hi) c' items' call sink g).mono fun o g' kept =>
      kept.mono (List.Subset.refl _) (fun text => text.below (listed hi) call) id
  refine (Triple.outputs item g).bind fun os => .pure fun g' logged => ?_
  rw [usages_concat_split]
  exact logged.mono (List.Subset.refl _) id fun flat i hi => flat i (listed hi)

end ComponentMarkup
