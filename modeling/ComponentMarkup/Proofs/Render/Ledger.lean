import ComponentMarkup.Proofs.Compiler.Run
import ComponentMarkup.Proofs.Render.Delivery
import ComponentMarkup.Proofs.Render.Written

/-!
# The record of a walk

A whole walk keeps a log beside the usage graph: what is logged was accepted in that order, and each
owner comes in before it uses anything. So the list of components that a run gives, which is made
from the log alone, starts with the document, has what is reached from it and nothing else, and
puts users first. Log and fragments are the whole record unless a style or script that is set apart
holds elements: what is used there is recorded in the graph only, and fragments that are made there
are lost.

## Main definitions

* `Registry.Offers` — the components that a walk can come across from a registry
* `Output.Uses` — what was logged as a usage

## Main results

* `renderRoot_kept` — the log of a walk over a document goes with its usage graph
* `Compiler.componentsUsed_of_run` — the list of components, for every run with a result
* `renderRoot_loses_nothing` — the log gives the usage graph back, and all fragments that are made
  on the way arrive, if styles and scripts hold no elements
* `Compiler.exists_renderRoot_loses` — a drawing whose style holds one
-/

namespace ComponentMarkup

open Relation (ReflTransGen TransGen)
open UsageGraph (Acyclic Kept Grows)
open Walk (Proviso Triple)

/-! ### Whole walks -/

/-- A walk carries every list, whatever its depth. -/
theorem render_carries {s : Setting} {supplied : Component → Prop} (supplies : Supplies s supplied)
    (depth : Nat) (c : Context) (items : List Item) :
    (render s depth).Carries ⟨supplied, True⟩ (AssetsHoldText s supplied c items)
      (render s depth) c items := by
  induction depth generalizing c items with
  | zero => exact fun _ _ => ⟨fun _ _ _ => ⟨rfl, .tooDeep trivial⟩⟩
  | succ depth ih => exact renderItems_carries supplies fun _ _ c' items' _ => ih c' items'

/-- A component that is known from the start, or that an import can build. -/
def Registry.Offers (r : Registry) (s : Setting) (d : Component) : Prop :=
  (∃ path, r.outcomes.get? path = some (.ok d)) ∨
    ∃ reference source path, s.resolver.resolve reference source = .ok path ∧
      d.IsBuilt s.sources path none

theorem Registry.holds_offers (r : Registry) (s : Setting) : r.Holds fun _ => r.Offers s :=
  fun path _ found => .inl ⟨path, found⟩

theorem Registry.supplies_offers (r : Registry) (s : Setting) : Supplies s (r.Offers s) :=
  fun reference source path _ resolved built => .inr ⟨reference, source, path, resolved, built⟩

section Root

variable {s : Setting} {depth : Nat} {root : Component} {sink : Sink} {r : Registry} {o : Output}
  {p : Progress}

/-- The log of a walk over a document goes with the usage graph, and all of it is logged if no style
or script that is set apart holds elements. -/
theorem renderRoot_kept (success : renderRoot s depth root sink ⟨r, {}⟩ = .ok (o, p)) :
    Kept [root.path]
      (AssetsHoldText s (r.Offers s) (.ofRoot root s.sources.data) (itemsOf root.tree.children))
      False (({} : UsageGraph).addNode root.path) o.usages p.graph := by
  -- The walk is compared with itself: only the log and the graph are of interest here.
  have carries := render_carries (r.supplies_offers s) depth (.ofRoot root s.sources.data)
    (itemsOf root.tree.children) sink (({} : UsageGraph).addNode root.path)
  obtain ⟨_, settled⟩ :=
    carries.outcome ⟨r, ({} : UsageGraph).addNode root.path⟩ (r.holds_offers s) rfl
  rw [show render s depth _ sink _ _ = .ok (o, p) from success] at settled
  cases settled with
  | ok _ kept =>
    rw [Context.owners_ofRoot] at kept
    exact kept.mono (List.Subset.refl _) id False.elim

/-- All usages that were accepted give the usage graph, and the log is a part of them. -/
theorem exists_log_of_renderRoot (success : renderRoot s depth root sink ⟨r, {}⟩ = .ok (o, p)) :
    ∃ all, p.graph = .ofUsages (some root.path) all ∧ p.graph.Recorded ∧ o.usages.Sublist all := by
  obtain ⟨all, grows, logged, _⟩ := (renderRoot_kept success).made
  exact ⟨all, grows.eq_foldl, grows.recorded (UsageGraph.recorded_empty.addNode root.path), logged⟩

/-- Nothing is lost if no style or script that is met and set apart holds elements. The log gives
the usage graph back, in the same order and with the same kinds; all that was instantiated is
listed; and the fragments that styles and scripts with a text make anywhere in the walk, whatever
the component that they belong to, are those that come out. -/
theorem renderRoot_loses_nothing
    (success : renderRoot s depth root sink ⟨r, {}⟩ = .ok (o, p))
    (holdText : AssetsHoldText s (r.Offers s) (.ofRoot root s.sources.data)
      (itemsOf root.tree.children)) :
    p.graph = .ofUsages (some root.path) o.usages ∧
      (∀ n ∈ p.graph.nodes,
        n ∈ (UsageGraph.ofUsages (some root.path) o.usages).componentsUsed) ∧
      ∀ f, Produces s depth root sink ⟨r, {}⟩ f ↔ f ∈ o.fragments := by
  obtain ⟨all, grows, _, all_logged, _⟩ := (renderRoot_kept success).made
  have same : p.graph = .ofUsages (some root.path) o.usages := by
    rw [all_logged holdText]
    exact grows.eq_foldl
  refine ⟨same, fun n hn => ?_, fun f => ?_⟩
  · rw [← same]
    exact UsageGraph.mem_componentsUsed.mpr hn
  · exact produces_iff (r.supplies_offers s) (r.holds_offers s) success holdText

end Root

/-- Where nothing that can be read gives markup or is a style or script with elements in it, no such
style or script is met. -/
theorem Compiler.Avoids.assetsHoldText {c : Compiler} {root : Component} {r : Registry}
    (avoids : c.Avoids fun n => generates n || holdsElements n)
    (prepared : c.prepare = .ok (root, r)) :
    AssetsHoldText c.setting (r.Offers c.setting) (.ofRoot root c.setting.sources.data)
      (itemsOf root.tree.children) := by
  obtain ⟨known, document⟩ := mem_templates_of_prepare prepared
  refine assetsHoldText_of_lacks ?_ (.ofRoot (avoids.of_mem_templates document) _)
  rintro d (⟨path, found⟩ | ⟨reference, source, path, resolved, built⟩)
  · exact avoids.of_mem_templates (known path d found)
  · have template := mem_templates_of_isBuilt built (.inr ⟨reference, source, resolved⟩)
    exact avoids.of_mem_templates template

namespace Compiler

/-- A page that hands an icon to a card. The card has a style. -/
def gallery : Compiler where
  store := .table [("card.webc", "<div><slot></slot></div><style>i\x7btop:0\x7d</style>"),
    ("icon.webc", "<i>*</i>")]
  components := [("x-card", "card.webc"), ("x-icon", "icon.webc")]
  input := some (.content "<x-card><x-icon></x-icon></x-card>" "index.webc")

/-- A page with a style that is part of a drawing and holds a component, which has a script. -/
def drawing : Compiler where
  store := .table [("a-el.webc", "<p>a</p><script>go()</script>")]
  components := [("a-el", "a-el.webc")]
  input := some (.content "<svg><style><a-el></a-el></style></svg>" "index.webc")

/-- The path of the document of a run, what a walk over it gives besides markup, and the usage
graph. -/
def walked (c : Compiler) (depth : Nat) :
    Option (String × List Usage × List Fragment × UsageGraph) :=
  c.prepare.toOption.bind fun (root, r) =>
    (renderRoot c.setting depth root .text ⟨r, {}⟩).toOption.map fun (o, p) =>
      (root.path, o.usages, o.fragments, p.graph)

theorem exists_of_walked {c : Compiler} {depth : Nat} {path : String} {log : List Usage}
    {fragments : List Fragment} {g : UsageGraph}
    (h : c.walked depth = some (path, log, fragments, g)) :
    ∃ root r o p, c.prepare = .ok (root, r) ∧
      renderRoot c.setting depth root .text ⟨r, {}⟩ = .ok (o, p) ∧
      root.path = path ∧ o.usages = log ∧ o.fragments = fragments ∧ p.graph = g := by
  obtain ⟨⟨root, r⟩, prepared, h⟩ := Option.bind_eq_some_iff.mp h
  obtain ⟨⟨o, p⟩, walked, h⟩ := Option.map_eq_some_iff.mp h
  obtain ⟨rfl, rfl, rfl, rfl⟩ :
      root.path = path ∧ o.usages = log ∧ o.fragments = fragments ∧ p.graph = g := by
    simpa using h
  exact ⟨root, r, o, p, Compiled.eq_ok_of_toOption prepared, Compiled.eq_ok_of_toOption walked,
    rfl, rfl, rfl, rfl⟩

/-- Nothing in the gallery gives markup, and its style holds a text. -/
theorem avoids_gallery : gallery.Avoids fun n => generates n || holdsElements n :=
  .of_table rfl (by decide +kernel) fun text path given => by
    obtain ⟨rfl, _⟩ := Input.content.inj (Option.some.inj given)
    decide +kernel

/-- The style of the gallery's card. -/
def cardStyle : Fragment := ⟨.style, "card.webc", "default", "i\x7btop:0\x7d"⟩

theorem walked_gallery :
    gallery.walked 10 = some ("index.webc",
      [⟨"index.webc", "card.webc", .structural⟩, ⟨"index.webc", "icon.webc", .slotted⟩],
      [cardStyle],
      ⟨["index.webc", "card.webc", "icon.webc"],
        [⟨"index.webc", "card.webc", .structural⟩, ⟨"index.webc", "icon.webc", .slotted⟩]⟩) := by
  decide +kernel

/-- The gallery's log gives its usage graph back, and the style of the card is all that it
produces. -/
theorem renderRoot_loses_nothing_gallery :
    ∃ root r o p, gallery.prepare = .ok (root, r) ∧
      renderRoot gallery.setting 10 root .text ⟨r, {}⟩ = .ok (o, p) ∧
      AssetsHoldText gallery.setting (r.Offers gallery.setting)
        (.ofRoot root gallery.setting.sources.data) (itemsOf root.tree.children) ∧
      p.graph = .ofUsages (some root.path) o.usages ∧ p.graph.nodes.length = 3 ∧
      ∀ f, Produces gallery.setting 10 root .text ⟨r, {}⟩ f ↔ f = cardStyle := by
  obtain ⟨root, r, o, p, prepared, walked, _, _, fragments, graph⟩ :=
    exists_of_walked walked_gallery
  have holdText := avoids_gallery.assetsHoldText prepared
  obtain ⟨same, _, produced⟩ := renderRoot_loses_nothing walked holdText
  refine ⟨root, r, o, p, prepared, walked, holdText, same, ?_, fun f => ?_⟩
  · rw [graph]
    rfl
  · rw [produced f, fragments, List.mem_singleton]

/-- The script of the component in the drawing. -/
def drawnScript : Fragment := ⟨.script, "a-el.webc", "default", "go()"⟩

/-- A usage can be lost, and so can a fragment. The component is instantiated to give the text of
the style: the usage is recorded in the graph, and the script makes its fragment. But the style
gives its text only, so the component is not listed, and its script does not come out. -/
theorem exists_renderRoot_loses :
    ∃ root r o p, drawing.prepare = .ok (root, r) ∧
      renderRoot drawing.setting 10 root .text ⟨r, {}⟩ = .ok (o, p) ∧
      p.graph ≠ .ofUsages (some root.path) o.usages ∧
      "a-el.webc" ∈ p.graph.nodes ∧
      "a-el.webc" ∉ (UsageGraph.ofUsages (some root.path) o.usages).componentsUsed ∧
      Produces drawing.setting 10 root .text ⟨r, {}⟩ drawnScript ∧ drawnScript ∉ o.fragments := by
  have result : drawing.walked 10 = some ("index.webc", [],
      [⟨.style, "index.webc", "default", "<a-el><p>a</p></a-el>"⟩],
      ⟨["index.webc", "a-el.webc"], [⟨"index.webc", "a-el.webc", .structural⟩]⟩) := by
    decide +kernel
  have halts : drawing.prepare.toOption.map (fun (root, r) =>
      (renderWithout drawing.setting drawnScript 10
        (.ofRoot root drawing.setting.sources.data) .text (itemsOf root.tree.children)
        ⟨r, ({} : UsageGraph).addNode root.path⟩).toOption.isNone) = some true := by
    decide +kernel
  obtain ⟨root, r, o, p, prepared, walked, path, log, fragments, graph⟩ := exists_of_walked result
  refine ⟨root, r, o, p, prepared, walked, ?_, ?_, ?_, fun same => ?_, ?_⟩
  · rw [path, log, graph]
    decide
  · rw [graph]
    decide
  · rw [path, log, UsageGraph.mem_componentsUsed]
    decide
  · -- The walk has a result, and the one that halts at the script has none.
    rw [prepared] at halts
    have none := Option.some.inj halts
    change (renderWithout _ _ _ _ _ _ _).toOption.isNone = true at none
    rw [show renderWithout _ _ _ _ _ _ _ = _ from same.trans walked] at none
    exact nomatch none
  · rw [fragments]
    decide

end Compiler

/-! ### The list of components -/

/-- What was logged as a usage. -/
def Output.Uses (o : Output) (a b : String) : Prop := ∃ kind, ⟨a, b, kind⟩ ∈ o.usages

/-- What was logged as a structural usage. -/
def Output.UsesStructurally (o : Output) (a b : String) : Prop := ⟨a, b, .structural⟩ ∈ o.usages

/-- The usages in the graph of a log are those that were logged. -/
theorem uses_ofUsages_eq (root : Option String) (o : Output) :
    (UsageGraph.ofUsages root o.usages).Uses = o.Uses := by
  funext a b
  exact propext (UsageGraph.uses_ofUsages root o.usages a b)

namespace Compiler

variable {c : Compiler} {depth : Nat} {sink : Sink} {o : Output} {summary : Summary}

/-- The document of a run has the path of the input. -/
theorem path_of_prepare {root : Component} {r : Registry} (prepared : c.prepare = .ok (root, r)) :
    ∃ input, c.input = some input ∧ root.path = input.path :=
  (holds_of_prepare (P := fun path d => d.path = path) prepared
    (fun _ _ _ built => built.path_eq) fun _ _ _ _ _ built => built.path_eq).2

/-- The list of components that a run gives starts with the input, repeats nothing, and has only
what the input uses by itself or through others. Structural usages form no cycle, and where no
usages do, every component comes before all that it uses. -/
theorem componentsUsed_of_run (success : c.run depth sink = .ok (o, summary)) :
    ∃ input, c.input = some input ∧
      summary.componentsUsed.head? = some input.path ∧
      summary.componentsUsed.Nodup ∧
      (∀ path ∈ summary.componentsUsed, path ≠ input.path → TransGen o.Uses input.path path) ∧
      Acyclic o.UsesStructurally ∧
      (Acyclic o.Uses → ∀ a b, TransGen o.Uses a b → [a, b].Sublist summary.componentsUsed) := by
  obtain ⟨root, r, p, prepared, walked, rfl⟩ := exists_of_run success
  obtain ⟨input, given, path_eq⟩ := path_of_prepare prepared
  have grounded := (renderRoot_kept walked).grounded
  have wf := UsageGraph.wellFormed_ofUsages (some root.path) o.usages
  have reaches := fun n hn => grounded.isOrUses_ofUsages (n := n) hn
  refine ⟨input, given, ?first, UsageGraph.nodup_componentsUsed _, ?reached, ?structural, ?ordered⟩
  case first =>
    rw [← path_eq]
    exact UsageGraph.head?_componentsUsed wf (UsageGraph.head?_nodes_ofUsages ..) reaches
  case reached =>
    intro path listed other
    have chain := reaches path (UsageGraph.mem_componentsUsed.mp listed)
    rw [UsageGraph.IsOrUses, uses_ofUsages_eq, path_eq] at chain
    exact (Relation.reflTransGen_iff_eq_or_transGen.mp chain).resolve_left other
  case structural =>
    -- The log is part of what the usage graph accepted.
    obtain ⟨all, graph_eq, recorded, logged⟩ := exists_log_of_renderRoot walked
    refine recorded.acyclic.mono fun a b use => ?_
    rw [graph_eq, UsageGraph.usesStructurally_ofUsages]
    exact logged.subset use
  case ordered =>
    intro acyclic a b chain
    rw [← uses_ofUsages_eq (some root.path)] at acyclic chain
    exact UsageGraph.sublist_componentsUsed wf acyclic chain

/-- In the gallery the page comes first, and before the icon that it hands to the card. -/
theorem componentsUsed_of_run_gallery :
    ∃ o summary, gallery.run 10 .text = .ok (o, summary) ∧ Acyclic o.Uses ∧
      ∃ input, gallery.input = some input ∧ summary.componentsUsed.head? = some input.path ∧
        summary.componentsUsed.Nodup ∧
        (∀ path ∈ summary.componentsUsed, path ≠ input.path → TransGen o.Uses input.path path) ∧
        Acyclic o.UsesStructurally ∧ [input.path, "icon.webc"].Sublist summary.componentsUsed := by
  obtain ⟨root, r, o, p, prepared, walked, _, log, _, _⟩ := exists_of_walked walked_gallery
  have success : gallery.run 10 .text = .ok (o, gallery.summarize root.path o) := by
    rw [run_of_prepare prepared, walked]
    rfl
  -- Only the page uses anything.
  have acyclic : Acyclic o.Uses := by
    let rank (path : String) : Nat := if path = "index.webc" then 1 else 0
    have falls : ∀ u ∈ o.usages, rank u.target < rank u.owner := by
      rw [log]
      decide
    exact UsageGraph.acyclic_of_rank rank fun a b ⟨_, use⟩ => falls _ use
  obtain ⟨input, given, first, nodup, reached, structural, ordered⟩ := componentsUsed_of_run success
  have same : input.path = "index.webc" := by
    rw [← Option.some.inj given]
    rfl
  have icon : o.Uses input.path "icon.webc" := ⟨.slotted, by rw [log, same]; decide⟩
  exact ⟨o, _, success, acyclic, input, given, first, nodup, reached, structural,
    ordered acyclic _ _ (.single icon)⟩

end Compiler

end ComponentMarkup
