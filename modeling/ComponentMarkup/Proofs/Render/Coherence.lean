import ComponentMarkup.Proofs.Render.Growth
import ComponentMarkup.Proofs.Render.Written

/-!
# Coherent contexts

A context says in four ways in which component a branch of the document was written: by the owner
of its usages and fragments, by the component, by the file that references start from, and by the
innermost of the instances around. They always agree, also in content that was handed over and in
the content around that: it goes back to the component that wrote it. The instances around start
with the document, are all different, and each is used by the one before it, in the graph as it is
when the branch is rendered.

That this holds for every list that a walk renders is said by checking it. In the checked walk every
list is checked right before it is rendered, with the graph of that moment, and whatever one likes
happens to a list that fails; the walk is the checked walk all the same.

## Main definitions

* `Component.Wrote` — the nodes of a component's template, and of markup that these give
* `Context.IsSound` — what holds of a context by itself
* `Placed` — what holds of the context and the items of a list
* `Coherent` — the same together with the graph at the time the list is rendered
* `renderChecked` — the walk in which every list is checked

## Main results

* `Placed.of_calls` — lists that are handed on are as well placed as the list
* `Placed.render_steady` — where the list is well placed, the checked walk has the outcome of the walk
* `renderRoot_eq_renderChecked` — no list of a walk over a document fails the check
-/

namespace ComponentMarkup

open Markup (Node)

/-- A node of the template of a component, or of markup that such a node gave when it was
rendered. -/
inductive Component.Wrote (d : Component) : Node → Prop
  | template {n : Node} (listed : n ∈ d.tree.children) : d.Wrote n
  | child {m n : Node} (wrote : d.Wrote m) (listed : n ∈ m.children) : d.Wrote n
  /-- A node of the content of a template element. -/
  | content {m t n : Node} (wrote : d.Wrote m) (isContent : m.content? = some t)
    (listed : n ∈ t.children) : d.Wrote n
  /-- A node of the markup that a script or a directive gave. -/
  | generated {m n : Node} {markup : String} (wrote : d.Wrote m) (gives : generates m = true)
    (listed : n ∈ (Markup.parseTemplate markup).children) : d.Wrote n

/-- All that says in which component a branch was written says the same, and the instances around
are different ones from the document to that component. -/
structure Context.IsSound (root : String) (c : Context) : Prop where
  path_eq : c.component.path = c.owner
  file_eq : c.file = c.owner
  last_eq : c.ancestry.getLast? = some c.owner
  first_eq : c.ancestry.head? = some root
  distinct : c.ancestry.Nodup

/-- The context of a list is sound, and so are those that content was handed over from. The items
were written by the component of the context, and content that was handed over by the component of
the context that it goes back to. -/
structure Placed (root : String) (c : Context) (items : List Item) : Prop where
  sound : ∀ k ∈ c.around, k.IsSound root
  written : ∀ i ∈ items, c.component.Wrote i.node
  handed : ∀ k ∈ c.around, ∀ caller, k.caller = some caller →
    ∀ n ∈ k.light, caller.component.Wrote n

/-- A list is coherent at its turn if it is well placed and each instance around its context, or
around one that content was handed over from, is used by the instance before it in the graph of that
moment. -/
structure Coherent (root : String) (g : UsageGraph) (c : Context) (items : List Item) : Prop
    extends Placed root c items where
  linked : ∀ k ∈ c.around, ∀ owner target, [owner, target] <:+: k.ancestry → g.Uses owner target

/-! ### The checked walk -/

open Classical in
/-- A renderer before which each list is checked; `otherwise` renders the lists that fail. -/
noncomputable def Renderer.checked (r : Renderer)
    (check : UsageGraph → Context → List Item → Prop) (otherwise : Renderer) : Renderer :=
  fun c sink items p =>
    if check p.graph c items then r c sink items p else otherwise c sink items p

theorem Renderer.checked_eq {check : UsageGraph → Context → List Item → Prop} {r : Renderer}
    {c : Context} {items : List Item} {p : Progress} (holds : check p.graph c items)
    (otherwise : Renderer) (sink : Sink) :
    r.checked check otherwise c sink items p = r c sink items p :=
  if_pos holds

/-- The walk in which every list is checked before it is rendered. -/
noncomputable def renderChecked (s : Setting) (check : UsageGraph → Context → List Item → Prop)
    (otherwise : Renderer) : Nat → Renderer
  | 0 => (render s 0).checked check otherwise
  | depth + 1 => (renderItems s (renderChecked s check otherwise depth)).checked check otherwise

/-! ### Lists that are handed on -/

/-- A list is coherent with a graph that has the usages between the instances around. -/
theorem Placed.coherent {root : String} {g : UsageGraph} {c : Context} {items : List Item}
    (placed : Placed root c items) (linked : c.Links ≤ g.Uses) : Coherent root g c items where
  toPlaced := placed
  linked k hk owner target pair := linked owner target ⟨k, hk, pair⟩

section

variable {s : Setting} {supplied : Component → Prop} {root : String} {c c' : Context} {i : Item}
  {items items' : List Item} {d : Component}

theorem wrote_of_renderedChildren {m n : Node} (wrote : d.Wrote m)
    (listed : n ∈ renderedChildren m) : d.Wrote n := by
  unfold renderedChildren at listed
  split at listed
  · rename_i isContent
    exact .content wrote isContent listed
  · exact .child wrote listed

theorem wrote_itemsOf {nodes : List Node} (wrote : ∀ n ∈ nodes, d.Wrote n) :
    ∀ j ∈ itemsOf nodes, d.Wrote j.node := by
  intro j hj
  obtain ⟨n, hn, rfl⟩ := List.mem_map.mp hj
  exact wrote n hn

/-- Contexts that are the same but for how their branch is rendered. -/
structure Context.SameComponent (c c' : Context) : Prop where
  owner : c'.owner = c.owner
  component : c'.component = c.component
  file : c'.file = c.file
  ancestry : c'.ancestry = c.ancestry
  light : c'.light = c.light
  caller : c'.caller = c.caller

theorem Context.IsSound.of_same (h : c.IsSound root) (same : c.SameComponent c') :
    c'.IsSound root where
  path_eq := by rw [same.component, same.owner, h.path_eq]
  file_eq := by rw [same.file, same.owner, h.file_eq]
  last_eq := by rw [same.ancestry, same.owner, h.last_eq]
  first_eq := by rw [same.ancestry, h.first_eq]
  distinct := by rw [same.ancestry]; exact h.distinct

/-- A list that was written by the same component is well placed in the same context. -/
theorem Placed.of_same (h : Placed root c items) (same : c.SameComponent c')
    (written : ∀ j ∈ items', c.component.Wrote j.node) : Placed root c' items' := by
  refine ⟨fun k hk => ?_, fun j hj => same.component ▸ written j hj, fun k hk => ?_⟩
  all_goals
    rw [Context.around_eq, same.caller] at hk
    rcases List.mem_cons.mp hk with rfl | hk
  · exact (h.sound c c.mem_around_self).of_same same
  · exact h.sound k (Context.around_eq c ▸ List.mem_cons_of_mem c hk)
  · rw [same.caller, same.light]
    exact h.handed c c.mem_around_self
  · exact h.handed k (Context.around_eq c ▸ List.mem_cons_of_mem c hk)

/-- Content for a slot goes back to the context that it was written in. -/
theorem Placed.of_slot (h : Placed root c items) {k : Context} {name : String}
    {nodes : List Node} (found : c.slotContent? name = some (k, nodes)) :
    Placed root k (itemsOf nodes) := by
  obtain ⟨caller, isCaller, rfl, sublist⟩ := Context.slotContent?_eq_some found
  have within := Context.around_subset_of_caller isCaller
  have outside : Placed root caller (itemsOf nodes) :=
    ⟨fun k hk => h.sound k (within hk),
      wrote_itemsOf fun n hn => h.handed c c.mem_around_self caller isCaller n (sublist.subset hn),
      fun k hk => h.handed k (within hk)⟩
  exact outside.of_same ⟨rfl, rfl, rfl, rfl, rfl, rfl⟩ outside.written

/-- The template of a component was written by the component, and the content handed to it by the
component around its host. -/
theorem Placed.of_template (h : Placed root c items) (listed : i ∈ items)
    (fresh : d.path ∉ c.ancestry) (setup host raw : Entries Value) (bucket : Option String)
    (onHost : List EvaluatedAttribute) :
    Placed root (c.forInstance d (c.data.forComponent d.path setup host raw) bucket
      i.node.children) (instanceItems d onHost) := by
  have here := h.sound c c.mem_around_self
  have outside : Placed root c.asSlotContent (itemsOf i.node.children) :=
    h.of_same ⟨rfl, rfl, rfl, rfl, rfl, rfl⟩
      (wrote_itemsOf fun n hn => .child (h.written i listed) hn)
  have inside : (c.forInstance d (c.data.forComponent d.path setup host raw) bucket
      i.node.children).IsSound root := by
    refine ⟨rfl, rfl, List.getLast?_concat, ?_, ?_⟩
    · rw [← here.first_eq]
      exact List.head?_append_of_ne_nil _ fun empty => nomatch (empty ▸ here.last_eq)
    · exact here.distinct.append (List.nodup_singleton _) (by simpa using fresh)
  -- Around the instance there are the instance itself and all that is around its host.
  refine ⟨fun k hk => ?_, fun j hj => .template (node_mem_of_instanceItems hj), fun k hk => ?_⟩
  all_goals
    rw [Context.around_eq] at hk
    rcases List.mem_cons.mp hk with rfl | hk
  · exact inside
  · exact outside.sound k hk
  · intro caller isCaller n hn
    obtain rfl : c.asSlotContent = caller := Option.some.inj isCaller
    exact .child (h.written i listed) hn
  · exact outside.handed k hk

theorem Placed.of_handsOn (h : Placed root c items) (listed : i ∈ items)
    (handsOn : HandsOn s supplied c i c' items') : Placed root c' items' := by
  have wrote := h.written i listed
  cases handsOn with
  | scripted types =>
    exact h.of_same ⟨rfl, rfl, rfl, rfl, rfl, rfl⟩
      (wrote_itemsOf fun n => .generated wrote (generates_of_isRenderType types))
  | children =>
    exact h.of_same ⟨rfl, rfl, rfl, rfl, rfl, rfl⟩
      (wrote_itemsOf fun n => wrote_of_renderedChildren wrote)
  | html directive isHtml =>
    exact h.of_same ⟨rfl, rfl, rfl, rfl, rfl, rfl⟩
      (wrote_itemsOf fun n => .generated wrote (generates_of_contentDirective directive isHtml))
  | slot found => exact h.of_slot found
  | fallback | asset | light =>
    exact h.of_same ⟨rfl, rfl, rfl, rfl, rfl, rfl⟩ (wrote_itemsOf fun n => .child wrote)
  | template _ fresh _ data_eq =>
    subst data_eq
    exact h.of_template listed fresh _ _ _ _ _

/-- Lists that are handed on are as well placed as the list. -/
theorem Placed.of_calls (h : Placed root c items) (listed : i ∈ items)
    (call : Calls s supplied c i c' items') : Placed root c' items' := by
  cases call with
  | document isDocument =>
    refine h.of_same ⟨rfl, rfl, rfl, rfl, rfl, rfl⟩ (wrote_itemsOf fun n hn => ?_)
    refine .child (h.written i listed) ?_
    rw [isDocument]
    exact hn
  | verbatim =>
    exact h.of_same ⟨rfl, rfl, rfl, rfl, rfl, rfl⟩
      (wrote_itemsOf fun n => wrote_of_renderedChildren (h.written i listed))
  | once _ _ _ handsOn => exact h.of_handsOn listed handsOn
  | @iteration _ _ row _ _ _ _ _ _ _ handsOn =>
    have inLoop : Placed root (c.withLocals row) items :=
      h.of_same ⟨rfl, rfl, rfl, rfl, rfl, rfl⟩ h.written
    exact inLoop.of_handsOn listed handsOn

end

/-! ### Every list of a walk -/

section

variable {s : Setting} {root : String} {c : Context} {items : List Item}

/-- A list that is well placed passes the check from all graphs that have the usages between the
instances around. -/
theorem Placed.steady_checked (placed : Placed root c items) {r r' : Renderer}
    (steady : r.Steady r' c items) (otherwise : Renderer) :
    r.Steady (r'.checked (Coherent root) otherwise) c items := by
  intro sink g holds
  refine ⟨fun p known pre => ?_⟩
  obtain ⟨same, result⟩ := (steady sink g holds).outcome p known pre
  have coherent : Coherent root p.graph c items := pre ▸ placed.coherent holds
  exact ⟨same.trans (Renderer.checked_eq coherent otherwise sink).symm, result⟩

/-- Where a list is well placed, the walk and the checked walk have the same outcome from all graphs
that have the usages between the instances around. -/
theorem Placed.render_steady (placed : Placed root c items) (otherwise : Renderer) (depth : Nat) :
    (render s depth).Steady (renderChecked s (Coherent root) otherwise depth) c items := by
  -- What is handed on is well placed again, so the lists below pass their checks before this one's
  -- outcome is compared.
  induction depth generalizing c items with
  | zero =>
    refine placed.steady_checked ?_ otherwise
    exact fun sink g _ => ⟨fun p _ _ => ⟨rfl, .tooDeep trivial⟩⟩
  | succ depth ih =>
    have last := (placed.sound c c.mem_around_self).last_eq
    refine placed.steady_checked (renderItems_steady last ?_) otherwise
    intro i listed c' items' call
    exact ih (placed.of_calls listed call)

end

theorem placed_ofRoot (root : Component) (environment : Cascade) :
    Placed root.path (.ofRoot root environment) (itemsOf root.tree.children) := by
  have only : ∀ k ∈ (Context.ofRoot root environment).around, k = .ofRoot root environment := by
    intro k hk
    rwa [Context.around_ofRoot, List.mem_singleton] at hk
  refine ⟨fun k hk => ?_, wrote_itemsOf fun n hn => .template hn, fun k hk => ?_⟩
  · rw [only k hk]
    exact ⟨rfl, rfl, rfl, rfl, List.nodup_singleton _⟩
  · rw [only k hk]
    intro caller impossible
    exact nomatch impossible

/-- Every list that a walk over a document renders is coherent at its turn: checking each list right
before it is rendered, and doing anything else with those that fail, gives the same outcome.
`otherwise` may fail with any error, and an error ends the walk, so there is no list that fails. -/
theorem renderRoot_eq_renderChecked (s : Setting) (depth : Nat) (root : Component) (sink : Sink)
    (otherwise : Renderer) (p : Progress) :
    renderRoot s depth root sink p =
      renderChecked s (Coherent root.path) otherwise depth (.ofRoot root s.sources.data) sink
        (itemsOf root.tree.children) { p with graph := p.graph.addNode root.path } := by
  have steady := (placed_ofRoot root s.sources.data).render_steady (s := s) otherwise depth sink
  -- Around the document there is one instance, so nothing needs to be in the graph yet.
  have holds : (Context.ofRoot root s.sources.data).Links ≤ (p.graph.addNode root.path).Uses := by
    rintro owner target ⟨k, hk, pair⟩
    rw [Context.around_ofRoot, List.mem_singleton] at hk
    subst hk
    exact absurd pair.length_le (by simp [Context.ofRoot])
  exact ((steady _ holds).outcome _ (fun _ _ _ => trivial) rfl).1

end ComponentMarkup
