import ComponentMarkup.Proofs.Render.Accounting
import Mathlib.Order.Basic

/-!
# Walks over a growing graph

While a document is rendered the usage graph only grows: usages are added and none is taken back. So
what a list needs to find in the graph, it still finds when its turn comes, whatever was rendered
before it.

Two renderers of the lists below are compared from all graphs that have at least certain usages, and
for each list that is handed on these are its own: those between the instances around it. What a
list needs beyond those of the list above is the usage of a new instance, and that is recorded right
before the template of the instance is rendered.

## Main definitions

* `Context.Links` — the usages between the instances around a context, handed content included
* `Walk.Steady` — the same outcome from all graphs with certain usages, and a graph that grew
* `Renderer.Steady` — the same for two renderers of a list

## Main results

* `renderItems_steady` — a step of the walk is steady if all lists that it hands on are
-/

namespace ComponentMarkup

open Markup (Node isRawTextElement isVoidElement)
open Walk (Proviso Triple)

/-! ### Instances around -/

/-- The owner and the target follow each other among the instances around, or among those around a
context that content was handed over from. -/
def Context.Links (c : Context) (owner target : String) : Prop :=
  ∃ k ∈ c.around, [owner, target] <:+: k.ancestry

namespace Context

variable {c c' : Context} {owner target : String}

theorem Links.of_same (same : ∀ k' ∈ c'.around, ∃ k ∈ c.around, k'.Alike k)
    (h : c'.Links owner target) : c.Links owner target := by
  obtain ⟨k', hk', linked⟩ := h
  obtain ⟨k, hk, _, ancestry⟩ := same k' hk'
  exact ⟨k, hk, ancestry ▸ linked⟩

/-- Two entries follow each other in a longer list if they do in the list, or are its last one and
the new one. -/
theorem infix_concat_pair {u v x : String} {l : List String} :
    [u, v] <:+: l ++ [x] ↔ [u, v] <:+: l ∨ l.getLast? = some u ∧ v = x := by
  rw [List.infix_concat_iff, or_comm, List.suffix_concat_iff]
  refine or_congr_right ⟨?_, ?_⟩
  · rintro (impossible | ⟨t, split, suffix⟩)
    · exact nomatch impossible
    · have entries : [u] ++ [v] = t ++ [x] := split
      obtain ⟨rfl, same⟩ := List.append_inj' entries rfl
      obtain ⟨before, rfl⟩ := suffix
      exact ⟨List.getLast?_concat, List.singleton_inj.mp same⟩
  · rintro ⟨last, rfl⟩
    obtain ⟨before, rfl⟩ := List.getLast?_eq_some_iff.mp last
    exact .inr ⟨[u], rfl, List.suffix_append ..⟩

/-- Around an instance there is one more link, from the component around its host. -/
theorem links_forInstance (last : c.ancestry.getLast? = some c.owner) {d : Component}
    {data : Cascade} {bucket : Option String} {light : List Node}
    (h : (c.forInstance d data bucket light).Links owner target) :
    c.Links owner target ∨ owner = c.owner ∧ target = d.path := by
  obtain ⟨k, hk, linked⟩ := h
  rw [around_eq] at hk
  rcases List.mem_cons.mp hk with rfl | hk
  · rcases infix_concat_pair.mp linked with linked | ⟨isLast, rfl⟩
    · exact .inl ⟨c, c.mem_around_self, linked⟩
    · exact .inr ⟨Option.some.inj (isLast.symm.trans last), rfl⟩
  · have same : ∀ k' ∈ c.asSlotContent.around, ∃ k ∈ c.around, k'.Alike k :=
      fun k' hk' => exists_alike_around hk' ⟨rfl, rfl⟩ rfl
    exact .inl (Links.of_same same ⟨k, hk, linked⟩)

end Context

/-! ### Steady walks -/

namespace Walk

/-- Any component may turn up, and a walk may stop for its depth. -/
def anything : Proviso := ⟨fun _ => True, True⟩

/-- From all graphs with at least the known usages both walks have the same outcome, and a result
leaves no usage out. -/
def Steady {α : Type} (known : String → String → Prop) (w v : Walk α) : Prop :=
  ∀ g : UsageGraph, known ≤ g.Uses → Triple anything (· = g) w v fun _ g' => g.Uses ≤ g'.Uses

namespace Steady

variable {α β : Type} {known known' : String → String → Prop} {w v w' v' : Walk α}
  {f f' : α → Walk β}

theorem pure (a : α) : Steady known (Walk.pure a) (Walk.pure a) :=
  fun g _ => .pure fun _ same => same ▸ le_refl g.Uses

theorem fail (e : CompileError) : Steady known (Walk.fail e : Walk α) (Walk.fail e) :=
  fun _ _ => .fail e

theorem mono (steady : Steady known w v) (le : known ≤ known') : Steady known' w v :=
  fun g holds => steady g (le.trans holds)

theorem bind (first : Steady known w v) (next : ∀ a, Steady known (f a) (f' a)) :
    Steady known (Walk.bind w f) (Walk.bind v f') := by
  intro g holds
  refine (first g holds).bind fun a => .of_graph fun g' grown => ?_
  exact ((next a) g' (holds.trans grown)).mono fun _ _ grown' => grown.trans grown'

/-- What follows a result. -/
theorem of {r : Compiled α} (next : ∀ a, r = .ok a → Steady known (f a) (f' a)) :
    Steady known (Walk.bind (Walk.of r) f) (Walk.bind (Walk.of r) f') :=
  fun g holds => .bind_of fun a result => next a result g holds

/-- What follows a usage finds it in the graph. -/
theorem record (u : Usage) {f f' : Unit → Walk β}
    (next : Steady (fun a b => known a b ∨ a = u.owner ∧ b = u.target) (f ()) (f' ())) :
    Steady known (Walk.bind (Walk.recordUsage u) f) (Walk.bind (Walk.recordUsage u) f') := by
  intro g holds
  refine .bind (.recordUsage u g) fun _ => .of_graph fun g' accepted => ?_
  obtain ⟨rfl, _⟩ := UsageGraph.record_eq_ok accepted
  have grown : g.Uses ≤ (g.insert u).Uses :=
    fun a b uses => (UsageGraph.uses_insert g u a b).mpr (.inl uses)
  refine (next (g.insert u) ?_).mono fun _ _ grown' => grown.trans grown'
  rintro a b (old | new)
  · exact grown a b (holds a b old)
  · exact (UsageGraph.uses_insert g u a b).mpr (.inr new)

theorem ite {c : Prop} [Decidable c] (yes : c → Steady known w v) (no : ¬ c → Steady known w' v') :
    Steady known (if c then w else w') (if c then v else v') :=
  fun g holds => .ite (fun h => yes h g holds) fun h => no h g holds

theorem each {as : List α} (step : ∀ a ∈ as, Steady known (f a) (f' a)) :
    Steady known (Walk.each f as) (Walk.each f' as) := by
  induction as with
  | nil => exact pure []
  | cons a as ih =>
    have rest := ih fun b hb => step b (List.mem_cons_of_mem a hb)
    exact bind (step a List.mem_cons_self) fun b => bind rest fun bs => pure (b :: bs)

end Steady

end Walk

open Walk (Steady anything)

/-- Two renderers with the same outcomes on a list, from all graphs that have the usages between the
instances around. -/
def Renderer.Steady (r r' : Renderer) (c : Context) (items : List Item) : Prop :=
  ∀ sink, Walk.Steady c.Links (r c sink items) (r' c sink items)

/-! ### Steps of rendering -/

section Steps

variable {inner inner' : Renderer} {s : Setting} {known : String → String → Prop} {c : Context}
  (sink : Sink) {i : Item}

theorem renderContent_steady (children : List Node) (directive : Option Markup.Attribute)
    (data : Cascade) (plain : Steady known (inner c sink (itemsOf children))
      (inner' c sink (itemsOf children)))
    (html : ∀ a v, directive = some a → a.name = "@html" →
      evaluateExpression a.value ("attribute `" ++ a.name ++ "`") data c.file = .ok v →
      Steady known (inner c sink (itemsOf (Markup.parseTemplate v.display).children))
        (inner' c sink (itemsOf (Markup.parseTemplate v.display).children))) :
    Steady known (renderContent inner children directive data c sink)
      (renderContent inner' children directive data c sink) := by
  cases directive with
  | none => exact plain
  | some a =>
    refine .of fun v value => .ite (fun _ => .pure _) fun _ => ?_
    refine .ite (fun isHtml => ?_) fun _ => .pure _
    have named : a.name = "@html" := by simpa using (Bool.and_eq_true_iff.mp isHtml).1
    exact html a v rfl named value

theorem renderTransformed_steady (types : List String) {content content' : Sink → Walk Output}
    (below : ∀ sink, Steady known (content sink) (content' sink)) :
    Steady known (renderTransformed s types c sink content)
      (renderTransformed s types c sink content') := by
  refine .ite (fun _ => below sink) fun _ => .bind (below .text) fun o => ?_
  exact .of fun text _ => .pure _

/-- Template and content of an instance come after its usage. -/
theorem renderComponent_steady {host : Node} {d : Component} (tag : String)
    (attributes : List EvaluatedAttribute)
    (template : ∀ onHost, d.path ∉ c.ancestry →
      hostAttributes d (c.data.forComponent d.path d.setup (cascadeEntries attributes)
        (rawEntries attributes)) attributes = .ok onHost →
      Steady (fun a b => known a b ∨ a = c.owner ∧ b = d.path)
        (inner (c.forInstance d (c.data.forComponent d.path d.setup (cascadeEntries attributes)
          (rawEntries attributes)) (bucketOf host c) host.children) .text (instanceItems d onHost))
        (inner' (c.forInstance d (c.data.forComponent d.path d.setup (cascadeEntries attributes)
          (rawEntries attributes)) (bucketOf host c) host.children) .text
            (instanceItems d onHost)))
    (light : Steady known (inner c.asSlotContent sink (itemsOf host.children))
      (inner' c.asSlotContent sink (itemsOf host.children))) :
    Steady known (renderComponent inner c sink host tag d attributes)
      (renderComponent inner' c sink host tag d attributes) := by
  refine .ite (fun _ => .fail _) fun isFresh => .record _ (.of fun onHost onHost_eq => ?_)
  have fresh : d.path ∉ c.ancestry := by simpa using isFresh
  refine .bind (template onHost fresh onHost_eq) fun o => ?_
  refine .bind ?_ fun l => .pure _
  exact .ite (fun _ => light.mono fun _ _ => .inl) fun _ => .pure _

section HandsOn

variable (calls : ∀ c' items, HandsOn s (fun _ => True) c i c' items → inner.Steady inner' c' items)

include calls

/-- A list that is handed on with the same instances around needs what the list above needs. -/
theorem handsOn_steady {c' : Context} {items : List Item}
    (handsOn : HandsOn s (fun _ => True) c i c' items)
    (same : ∀ k' ∈ c'.around, ∃ k ∈ c.around, k'.Alike k) :
    Steady c.Links (inner c' sink items) (inner' c' sink items) :=
  (calls c' items handsOn sink).mono fun _ _ linked => Context.Links.of_same same linked

theorem renderPlain_steady {attributes : List EvaluatedAttribute}
    (evaluated : attributesOf i c = .ok attributes) (types : List String) :
    Steady c.Links (renderPlain s inner c sink i.node (tagOf i.node) attributes types)
      (renderPlain s inner' c sink i.node (tagOf i.node) attributes types) := by
  refine .of fun directive found => .ite (fun _ => .pure _) fun _ => ?_
  have same : ∀ k' ∈ (c.nested (hasRawChildren i.node) (isRawTextElement (tagOf i.node))
      (bucketOf i.node c)).around, ∃ k ∈ c.around, k'.Alike k :=
    fun k' hk' => Context.exists_alike_around hk' ⟨rfl, rfl⟩ rfl
  refine .bind (renderTransformed_steady sink types fun sink => ?_) fun o => .pure _
  refine renderContent_steady sink _ _ _ ?_ fun a v isDirective isHtml value => ?_
  · exact handsOn_steady sink calls .children same
  · subst isDirective
    exact handsOn_steady sink calls (.html found isHtml evaluated value) same

theorem renderSlot_steady :
    Steady c.Links (renderSlot inner c sink i.node) (renderSlot inner' c sink i.node) := by
  unfold renderSlot
  split
  · rename_i k nodes found
    obtain ⟨caller, isCaller, rfl, _⟩ := Context.slotContent?_eq_some found
    refine handsOn_steady sink calls (.slot found) fun k' hk' => ?_
    obtain ⟨k, hk, alike⟩ := Context.exists_alike_around (c := caller) hk' ⟨rfl, rfl⟩ rfl
    exact ⟨k, Context.around_subset_of_caller isCaller hk, alike⟩
  · exact handsOn_steady sink calls .fallback fun k hk => ⟨k, hk, rfl, rfl⟩

theorem renderAsset_steady (kind : AssetKind) (types : List String) :
    Steady c.Links (renderAsset s inner c i.node kind types)
      (renderAsset s inner' c i.node kind types) := by
  have text := handsOn_steady .text calls .asset
    fun k' hk' => Context.exists_alike_around hk' ⟨rfl, rfl⟩ rfl
  exact .bind text fun o => .of fun text _ => .ite (fun _ => .pure _) fun _ => .pure _

theorem renderOther_steady {attributes : List EvaluatedAttribute}
    (evaluated : attributesOf i c = .ok attributes) (types : List String) :
    Steady c.Links (renderOther s inner c sink i.node (tagOf i.node) attributes types)
      (renderOther s inner' c sink i.node (tagOf i.node) attributes types) := by
  have plain := renderPlain_steady sink calls evaluated types
  refine .ite (fun _ => renderSlot_steady sink calls) fun _ => ?_
  cases assetKind? i.node with
  | none => exact plain
  | some kind => exact .ite (fun _ => plain) fun _ => renderAsset_steady calls kind types

theorem renderInstance_steady (last : c.ancestry.getLast? = some c.owner) :
    Steady c.Links (renderInstance s inner c sink i) (renderInstance s inner' c sink i) := by
  have imports : Steady c.Links (followImport s c i.node) (followImport s c i.node) :=
    fun g _ => (followImport_triple (fun _ _ _ _ _ _ => trivial) i.node).mono
      fun _ _ same => same ▸ le_refl g.Uses
  have lookUp : Steady c.Links (componentOf i.node) (componentOf i.node) :=
    fun g _ => (componentOf_triple i.node).mono fun _ _ ⟨same, _⟩ => same ▸ le_refl g.Uses
  refine .ite (fun _ => .pure _) fun _ => .bind imports fun _ => ?_
  refine .ite (fun types => ?_) fun _ => .of fun attributes evaluated => ?_
  · refine .of fun v result => .ite (fun _ => .pure _) fun _ => ?_
    have value := Compiled.mapError_eq_ok.mp result
    exact handsOn_steady sink calls (.scripted types value) fun k hk => ⟨k, hk, rfl, rfl⟩
  · refine .bind lookUp fun d? => ?_
    cases d? with
    | none => exact renderOther_steady sink calls evaluated _
    | some d =>
      refine renderComponent_steady sink _ attributes (fun onHost fresh host => ?_) ?_
      · -- The template needs the usage of its own instance, and that has just been recorded.
        exact (calls _ _ (.template trivial fresh evaluated rfl host) .text).mono
          fun _ _ linked => Context.links_forInstance last linked
      · exact handsOn_steady sink calls .light
          fun k' hk' => Context.exists_alike_around hk' ⟨rfl, rfl⟩ rfl

end HandsOn

variable (calls : ∀ c' items, Calls s (fun _ => True) c i c' items → inner.Steady inner' c' items)
  (last : c.ancestry.getLast? = some c.owner)

include calls

theorem renderVerbatim_steady (raw : c.raw = true) :
    Steady c.Links (renderVerbatim inner c sink i.node) (renderVerbatim inner' c sink i.node) := by
  refine .ite (fun _ => .pure _) fun _ => .bind ?_ fun o => .pure _
  refine (calls _ _ (.verbatim raw) sink).mono fun _ _ linked =>
    Context.Links.of_same (fun k hk => ?_) linked
  exact Context.exists_alike_around hk ⟨rfl, rfl⟩ rfl

include last

/-- An element, in all iterations of its loop if it has one. -/
theorem renderElement_steady (interpreted : c.raw = false) (element : i.node.isElement = true) :
    Steady c.Links (renderElement s inner c sink i) (renderElement s inner' c sink i) := by
  unfold renderElement
  split
  · rename_i noLoop
    exact renderInstance_steady sink
      (fun c' items handsOn => calls c' items (.once interpreted element noLoop handsOn))
      last
  · rename_i value loops
    refine .of fun rows expanded => .bind (.each fun row isRow => ?_) fun os => .pure _
    refine .of fun holds _ => .ite (fun _ => ?_) fun _ => .pure _
    have once := renderInstance_steady (c := c.withLocals row) sink
      (fun c' items handsOn =>
        calls c' items (.iteration interpreted element loops expanded isRow handsOn)) last
    refine once.mono fun _ _ linked => Context.Links.of_same (fun k hk => ?_) linked
    exact Context.exists_alike_around hk ⟨rfl, rfl⟩ rfl

theorem renderItem_steady :
    Steady c.Links (renderItem s inner c sink i) (renderItem s inner' c sink i) := by
  unfold renderItem
  split
  · rename_i nodes isDocument
    exact calls c _ (.document isDocument) sink
  · exact .pure _
  · exact .pure _
  · exact .pure _
  · rename_i isElement
    have element : i.node.isElement = true := by rw [isElement]; rfl
    exact .ite (fun raw => renderVerbatim_steady sink calls raw) fun interpreted =>
      renderElement_steady sink calls last (by simpa using interpreted) element

end Steps

/-- A step of the walk has the same outcomes for two renderers of the lists below if these have, on
each list that is handed on, from all graphs that have the usages between the instances around. -/
theorem renderItems_steady {inner inner' : Renderer} {s : Setting} {c : Context} {items : List Item}
    (last : c.ancestry.getLast? = some c.owner)
    (calls : ∀ i ∈ items, ∀ c' items', Calls s (fun _ => True) c i c' items' →
      inner.Steady inner' c' items') :
    (renderItems s inner).Steady (renderItems s inner') c items := by
  intro sink
  refine .of fun kept scheduled => ?_
  have listed := (sublist_of_scheduleItems scheduled).subset
  refine .bind (.each fun i hi => ?_) fun os => .pure _
  exact renderItem_steady sink (fun c' items' => calls i (listed hi) c' items') last

end ComponentMarkup
