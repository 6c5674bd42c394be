import ComponentMarkup.Proofs.Usage.Order

/-!
# The nearest common ancestor

The nearest common ancestor of two components is the one that comes first in the order of
components. What a component uses comes before it where usages form no cycle, so then the nearest
common ancestor uses no other one. There may be several that use no other one; then the order
chooses between them.

## Main definitions

* `UsageGraph.IsCommonAncestor` — a known component that is or uses both of two
* `UsageGraph.IsNarrowest` — one that uses no other common ancestor

## Main results

* `mem_commonAncestors` — the search keeps exactly the common ancestors
* `not_listedBefore_nearestCommonAncestor` — no common ancestor comes before the nearest one, on
  graphs with cycles as well
* `nearestCommonAncestor_isNarrowest` — there is a nearest common ancestor if there is any, and it
  is narrowest
-/

namespace ComponentMarkup.UsageGraph

open Relation (TransGen)

variable {g : UsageGraph} {a b c d : String}

/-! ### Common ancestors -/

/-- A known component that is or uses each of two, directly or through others. -/
def IsCommonAncestor (g : UsageGraph) (a b c : String) : Prop :=
  c ∈ g.nodes ∧ g.IsOrUses c a ∧ g.IsOrUses c b

/-- A common ancestor that uses no common ancestor, directly or through others. -/
structure IsNarrowest (g : UsageGraph) (a b c : String) : Prop where
  common : g.IsCommonAncestor a b c
  uses_none : ∀ d, g.IsCommonAncestor a b d → ¬ TransGen g.Uses c d

/-- The common ancestors are the known components among the ancestors of both. -/
theorem mem_commonAncestors (wf : g.WellFormed) :
    c ∈ g.nodes ∧ ((g.ancestors a).contains c && (g.ancestors b).contains c) = true ↔
      g.IsCommonAncestor a b c := by
  simp only [Bool.and_eq_true, List.contains_iff_mem, mem_ancestors wf, IsCommonAncestor]

/-- The nearest common ancestor comes first in the order. -/
theorem nearestCommonAncestor_eq_find? (g : UsageGraph) (a b : String) :
    g.nearestCommonAncestor a b =
      g.overallOrder.find? fun n => (g.ancestors a).contains n && (g.ancestors b).contains n := by
  simp only [nearestCommonAncestor, componentsUsed, List.filter_reverse, List.getLast?_reverse,
    List.head?_filter]

theorem nearestCommonAncestor_eq_none_iff (wf : g.WellFormed) :
    g.nearestCommonAncestor a b = none ↔ ∀ c, ¬ g.IsCommonAncestor a b c := by
  rw [nearestCommonAncestor_eq_find?, List.find?_eq_none]
  constructor
  · intro none c common
    obtain ⟨known, both⟩ := (mem_commonAncestors wf).mpr common
    exact none c (mem_overallOrder.mpr known) both
  · intro none c listed both
    exact none c ((mem_commonAncestors wf).mp ⟨mem_overallOrder.mp listed, both⟩)

/-- No common ancestor comes before the nearest one. -/
theorem not_listedBefore_nearestCommonAncestor (wf : g.WellFormed)
    (nearest : g.nearestCommonAncestor a b = some c) (common : g.IsCommonAncestor a b d) :
    ¬ g.ListedBefore d c := by
  rw [nearestCommonAncestor_eq_find?, List.find?_eq_some_iff_getElem] at nearest
  obtain ⟨-, i, later, rfl, skipped⟩ := nearest
  obtain ⟨known, both⟩ := (mem_commonAncestors wf).mpr common
  intro before
  rw [ListedBefore, g.nodup_overallOrder.idxOf_getElem] at before
  have rejected := skipped _ before
  rw [List.getElem_idxOf (List.idxOf_lt_length_of_mem (mem_overallOrder.mpr known)), both] at rejected
  exact Bool.false_ne_true rejected

/-- The nearest common ancestor of two names, known ones or not, on graphs that were built from a
log of usages and by any calls after that. There is one exactly if any known component is or uses
both. Where usages form no cycle, it uses no other common ancestor, directly or through others. -/
theorem nearestCommonAncestor_isNarrowest (root : Option String) (log : List Usage)
    (calls : List Call) (a b : String)
    (acyclic : Acyclic ((ofUsages root log).perform calls).2.Uses) :
    let g := ((ofUsages root log).perform calls).2
    (g.nearestCommonAncestor a b = none ↔ ∀ c, ¬ g.IsCommonAncestor a b c) ∧
      ∀ c, g.nearestCommonAncestor a b = some c → g.IsNarrowest a b c := by
  intro g
  have wf : g.WellFormed := (wellFormed_ofUsages root log).perform calls
  refine ⟨nearestCommonAncestor_eq_none_iff wf, fun c nearest => ?_⟩
  refine ⟨nearestCommonAncestor_eq_some wf nearest, fun d common path => ?_⟩
  -- What it used would come before it in the order.
  exact not_listedBefore_nearestCommonAncestor wf nearest common
    (listedBefore_of_transGen wf acyclic path)

/-- On a cycle the first one in the order may use others: the menu, which uses the icon through the
page, comes before it. -/
example : (ofUsages none [⟨"page", "menu", .structural⟩, ⟨"menu", "page", .slotted⟩,
    ⟨"page", "icon", .structural⟩]).nearestCommonAncestor "icon" "icon" = some "menu" := by
  cbv

/-- A page with a list and a menu that both use an icon and a link, in content handed over or not.
Neither of the two uses the other. The last usage and the note are recorded by calls. -/
def crossing : UsageGraph :=
  ((ofUsages (some "page") [⟨"page", "list", .structural⟩, ⟨"page", "menu", .slotted⟩,
    ⟨"list", "icon", .structural⟩, ⟨"list", "link", .slotted⟩, ⟨"menu", "link", .structural⟩]).insert
      ⟨"menu", "icon", .slotted⟩).addNode "note"

theorem crossing_eq : crossing =
    ⟨["page", "list", "menu", "icon", "link", "note"],
      [⟨"page", "list", .structural⟩, ⟨"page", "menu", .slotted⟩, ⟨"list", "icon", .structural⟩,
        ⟨"list", "link", .slotted⟩, ⟨"menu", "link", .structural⟩, ⟨"menu", "icon", .slotted⟩]⟩ := by
  decide +kernel

/-- Each usage leads from the page to one of the two, or from these down. -/
theorem acyclic_crossing : Acyclic crossing.Uses := by
  let rank (c : String) : Nat := if c = "page" then 2 else if c = "list" ∨ c = "menu" then 1 else 0
  have falls : ∀ u ∈ crossing.edges, rank u.target < rank u.owner := by
    rw [crossing_eq]
    decide
  exact acyclic_of_rank rank fun a b ⟨_, use⟩ => falls _ use

/-- The list and the menu both use the icon and the link; the nearest of the two is the list, which
comes first in the order. The icon and the note have no common ancestor, and a name that is not
known has none with itself. -/
theorem nearestCommonAncestor_isNarrowest_crossing :
    Acyclic crossing.Uses ∧ crossing.nearestCommonAncestor "icon" "link" = some "list" ∧
      crossing.IsNarrowest "icon" "link" "list" ∧ crossing.Uses "page" "list" ∧
      (∀ c, ¬ crossing.IsCommonAncestor "icon" "note" c) ∧
      ∀ c, ¬ crossing.IsCommonAncestor "lost" "lost" c := by
  have nearest : crossing.nearestCommonAncestor "icon" "link" = some "list" := by
    rw [crossing_eq]
    cbv
  have apart : crossing.nearestCommonAncestor "icon" "note" = none := by
    rw [crossing_eq]
    cbv
  have unknown : crossing.nearestCommonAncestor "lost" "lost" = none := by
    rw [crossing_eq]
    cbv
  let calls : List Call := [.usage ⟨"menu", "icon", .slotted⟩, .node "note"]
  have use : crossing.Uses "page" "list" := ⟨.structural, by simp [crossing_eq]⟩
  exact ⟨acyclic_crossing, nearest,
    (nearestCommonAncestor_isNarrowest _ _ calls "icon" "link" acyclic_crossing).2 _ nearest,
    use,
    (nearestCommonAncestor_isNarrowest _ _ calls "icon" "note" acyclic_crossing).1.mp apart,
    (nearestCommonAncestor_isNarrowest _ _ calls "lost" "lost" acyclic_crossing).1.mp unknown⟩

end ComponentMarkup.UsageGraph
