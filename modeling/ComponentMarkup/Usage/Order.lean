import ComponentMarkup.Usage.Graph

/-!
# The order of components

Components are listed so that each comes after what it uses, as far as usages form no cycle.

## Main definitions

* `UsageGraph.overallOrder` — what is used comes first
* `UsageGraph.componentsUsed` — what uses comes first
* `UsageGraph.nearestCommonAncestor` — the narrowest component around two
-/

namespace ComponentMarkup.UsageGraph

/-- What is left to do of a walk: to visit a component, or to list one whose usages are done. -/
inductive Task
  | visit (path : String)
  | list (path : String)

/-- Works the tasks off. Components are listed after what they use; `order` lists the last one
first. -/
def work (g : UsageGraph) (seen order : List String) : List Task → List String
  | [] => order.reverse
  | .list n :: tasks => work g seen (n :: order) tasks
  | .visit n :: tasks =>
    if n ∈ seen ∨ n ∉ g.nodes then work g seen order tasks
    else work g (n :: seen) order ((g.dependencies n).map Task.visit ++ .list n :: tasks)
termination_by tasks => ((g.unseen seen).length, tasks.length)
decreasing_by
  · exact Prod.Lex.right _ (by simp)
  · exact Prod.Lex.right _ (by simp)
  · rename_i h
    have h : n ∉ seen ∧ n ∈ g.nodes := by simpa using h
    exact Prod.Lex.left _ _ (g.length_unseen_lt h.2 h.1)

/-- All components, each after those it uses. Components are visited in the order of their first
mention and their usages in the order of first use. -/
def overallOrder (g : UsageGraph) : List String := g.work [] [] (g.nodes.map Task.visit)

/-- All components, each before those it uses. -/
def componentsUsed (g : UsageGraph) : List String := g.overallOrder.reverse

/-- The last component, in the order of use, that is or uses both. -/
def nearestCommonAncestor (g : UsageGraph) (a b : String) : Option String :=
  let left := g.ancestors a
  let right := g.ancestors b
  (g.componentsUsed.filter fun n => left.contains n && right.contains n).getLast?

end ComponentMarkup.UsageGraph
