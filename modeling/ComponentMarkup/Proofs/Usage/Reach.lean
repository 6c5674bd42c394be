import ComponentMarkup.Usage.Graph
import Mathlib.Logic.Relation

/-!
# Reachability in usage graphs

The search of a usage graph finds exactly what can be reached, on graphs with cycles as well. The
loop keeps two things: what has been seen can be reached, and each step from what has been seen
leads to something seen or pending.

## Main definitions

* `UsageGraph.Uses`, `UsageGraph.UsesStructurally` — one component uses another directly
* `UsageGraph.IsOrUses` — a component is another, or uses it directly or through others
* `UsageGraph.Acyclic` — no component comes back to itself along a relation
* `UsageGraph.WellFormed` — usages are between known components

## Main results

* `mem_reach` — the search finds exactly what can be reached
* `mem_ancestors` — the ancestors of a component are it and all that use it
* `wouldCycle_iff` — the check for cycles asks whether the target reaches the owner
-/

namespace ComponentMarkup.UsageGraph

open Relation (ReflTransGen TransGen)

variable {g : UsageGraph} {a b n : String} {u : Usage}

/-! ### Usage as a relation -/

/-- A component uses another directly, in its own template or in content handed over. -/
def Uses (g : UsageGraph) (a b : String) : Prop := ∃ kind, ⟨a, b, kind⟩ ∈ g.edges

/-- A component uses another directly in its own template. -/
def UsesStructurally (g : UsageGraph) (a b : String) : Prop := ⟨a, b, .structural⟩ ∈ g.edges

/-- A component is another one, or uses it directly or through others. -/
def IsOrUses (g : UsageGraph) : String → String → Prop := ReflTransGen g.Uses

/-- No component comes back to itself along a relation, directly or through others. -/
def Acyclic (r : String → String → Prop) : Prop := ∀ a, ¬ TransGen r a a

/-- Usages are between known components. -/
structure WellFormed (g : UsageGraph) : Prop where
  owner_mem : ∀ u ∈ g.edges, u.owner ∈ g.nodes
  target_mem : ∀ u ∈ g.edges, u.target ∈ g.nodes

theorem usesStructurally_le_uses (g : UsageGraph) : g.UsesStructurally ≤ g.Uses :=
  fun _ _ h => ⟨_, h⟩

theorem uses_iff : g.Uses a b ↔ ∃ u ∈ g.edges, u.owner = a ∧ u.target = b := by
  constructor
  · rintro ⟨kind, hu⟩
    exact ⟨_, hu, rfl, rfl⟩
  · rintro ⟨⟨owner, target, kind⟩, hu, rfl, rfl⟩
    exact ⟨kind, hu⟩

theorem usesStructurally_iff :
    g.UsesStructurally a b ↔ ∃ u ∈ g.edges, u.owner = a ∧ u.kind = .structural ∧ u.target = b := by
  constructor
  · intro hu
    exact ⟨_, hu, rfl, rfl, rfl⟩
  · rintro ⟨⟨owner, target, kind⟩, hu, rfl, rfl, rfl⟩
    exact hu

@[simp] theorem mem_dependencies : b ∈ g.dependencies a ↔ g.Uses a b := by
  simp [dependencies, uses_iff, and_assoc]

@[simp] theorem mem_dependants : a ∈ g.dependants b ↔ g.Uses a b := by
  simp [dependants, uses_iff, and_assoc, and_comm]

@[simp] theorem mem_structuralDependencies :
    b ∈ g.structuralDependencies a ↔ g.UsesStructurally a b := by
  simp [structuralDependencies, usesStructurally_iff, and_assoc]

theorem WellFormed.mem_of_uses (wf : g.WellFormed) (h : g.Uses a b) :
    a ∈ g.nodes ∧ b ∈ g.nodes :=
  have ⟨_, hu⟩ := h
  ⟨wf.owner_mem _ hu, wf.target_mem _ hu⟩

/-- What is reached from elsewhere is known. -/
theorem WellFormed.mem_of_transGen (wf : g.WellFormed) (h : TransGen g.Uses a b) :
    a ∈ g.nodes ∧ b ∈ g.nodes := by
  obtain ⟨_, first, _⟩ := TransGen.head'_iff.mp h
  obtain ⟨_, _, last⟩ := TransGen.tail'_iff.mp h
  exact ⟨(wf.mem_of_uses first).1, (wf.mem_of_uses last).2⟩

/-! ### The search

`next` gives the neighbours that the search follows: dependencies of some kind, or dependants. -/

section Search

variable {next : String → List String} {seen pending : List String}

theorem subset_reachFrom (g : UsageGraph) (next : String → List String)
    (seen pending : List String) :
    seen ⊆ g.reachFrom next seen pending := by
  fun_induction reachFrom g next seen pending with
  | case1 seen => exact List.Subset.refl _
  | case2 seen n pending _ ih => exact ih
  | case3 seen n pending _ ih => exact fun m hm => ih (List.mem_cons_of_mem n hm)

/-- What is pending and known is found. -/
theorem pending_mem_reachFrom (hn : n ∈ g.nodes) (hp : n ∈ pending) :
    n ∈ g.reachFrom next seen pending := by
  fun_induction reachFrom g next seen pending with
  | case1 => exact absurd hp List.not_mem_nil
  | case2 seen m pending skip ih =>
    rcases List.mem_cons.mp hp with rfl | hp
    · exact subset_reachFrom g next seen pending (skip.resolve_right (not_not_intro hn))
    · exact ih hp
  | case3 seen m pending _ ih =>
    rcases List.mem_cons.mp hp with rfl | hp
    · exact subset_reachFrom g next _ _ List.mem_cons_self
    · exact ih (List.mem_append_right _ hp)

/-- Whatever is found was seen before or can be reached from something pending. -/
theorem reachable_of_mem_reachFrom (h : n ∈ g.reachFrom next seen pending) :
    n ∈ seen ∨ ∃ m ∈ pending, ReflTransGen (fun a b => b ∈ next a) m n := by
  fun_induction reachFrom g next seen pending with
  | case1 seen => exact .inl h
  | case2 seen m pending _ ih =>
    rcases ih h with old | ⟨k, hk, path⟩
    · exact .inl old
    · exact .inr ⟨k, List.mem_cons_of_mem m hk, path⟩
  | case3 seen m pending _ ih =>
    rcases ih h with old | ⟨k, hk, path⟩
    · rcases List.mem_cons.mp old with rfl | old
      · exact .inr ⟨n, List.mem_cons_self, .refl⟩
      · exact .inl old
    · rcases List.mem_append.mp hk with below | hk
      · exact .inr ⟨m, List.mem_cons_self, .head below path⟩
      · exact .inr ⟨k, List.mem_cons_of_mem m hk, path⟩

/-- Each step from what has been seen leads to something seen or pending. -/
def Explored (g : UsageGraph) (next : String → List String) (seen pending : List String) : Prop :=
  ∀ a ∈ seen, ∀ b ∈ next a, b ∈ g.nodes → b ∈ seen ∨ b ∈ pending

/-- The result is closed: no step leaves it. -/
theorem reachFrom_closed (explored : g.Explored next seen pending) :
    g.Explored next (g.reachFrom next seen pending) [] := by
  fun_induction reachFrom g next seen pending with
  | case1 seen => exact explored
  | case2 seen m pending skip ih =>
    refine ih fun a ha b hb hn => ?_
    rcases explored a ha b hb hn with old | hp
    · exact .inl old
    · rcases List.mem_cons.mp hp with rfl | hp
      · exact .inl (skip.resolve_right (not_not_intro hn))
      · exact .inr hp
  | case3 seen m pending _ ih =>
    -- The neighbours of what was just seen are pending now.
    refine ih fun a ha b hb hn => ?_
    rcases List.mem_cons.mp ha with rfl | ha
    · exact .inr (List.mem_append_left _ hb)
    · rcases explored a ha b hb hn with old | hp
      · exact .inl (List.mem_cons_of_mem m old)
      · rcases List.mem_cons.mp hp with rfl | hp
        · exact .inl List.mem_cons_self
        · exact .inr (List.mem_append_right _ hp)

/-- The search finds exactly what can be reached, if steps are between known components. -/
theorem mem_reach (known : ∀ a, ∀ b ∈ next a, a ∈ g.nodes ∧ b ∈ g.nodes) (path : String) :
    n ∈ g.reach next path ↔ ReflTransGen (fun a b => b ∈ next a) path n := by
  unfold reach
  split
  · rename_i hpath
    constructor
    · intro h
      obtain ⟨m, hm, reached⟩ := (reachable_of_mem_reachFrom h).resolve_left List.not_mem_nil
      rwa [← List.mem_singleton.mp hm]
    · intro reached
      have closed : g.Explored next (g.reachFrom next [] [path]) [] :=
        reachFrom_closed fun a ha => absurd ha List.not_mem_nil
      induction reached with
      | refl => exact pending_mem_reachFrom hpath (List.mem_singleton_self path)
      | @tail a b _ step ih =>
        exact (closed a ih b step (known a b step).2).resolve_right List.not_mem_nil
  · rename_i hpath
    constructor
    · intro h
      rw [List.mem_singleton.mp h]
    · intro reached
      rcases reached.cases_head with rfl | ⟨b, step, _⟩
      · exact List.mem_singleton_self _
      · exact absurd (known _ b step).1 hpath

end Search

/-- The ancestors of a component are the component and all that use it, directly or through
others. -/
theorem mem_ancestors (wf : g.WellFormed) : a ∈ g.ancestors b ↔ g.IsOrUses a b := by
  unfold ancestors IsOrUses
  rw [mem_reach fun a b h => (wf.mem_of_uses (mem_dependants.mp h)).symm]
  simp only [mem_dependants]
  exact Relation.reflTransGen_swap

/-- The check for cycles asks whether the target is or structurally uses the owner. -/
theorem wouldCycle_iff (wf : g.WellFormed) {owner target : String} :
    g.wouldCycle owner target = true ↔ ReflTransGen g.UsesStructurally target owner := by
  have known : ∀ a, ∀ b ∈ g.structuralDependencies a, a ∈ g.nodes ∧ b ∈ g.nodes :=
    fun a b h => wf.mem_of_uses (g.usesStructurally_le_uses a b (mem_structuralDependencies.mp h))
  have search : owner ∈ g.reach g.structuralDependencies target ↔
      ReflTransGen g.UsesStructurally target owner := by
    rw [mem_reach known]
    simp only [mem_structuralDependencies]
  by_cases same : owner = target
  · subst same
    simp [wouldCycle, ReflTransGen.refl]
  · -- A path between different components starts and ends at known ones.
    have ends (path : ReflTransGen g.UsesStructurally target owner) :
        owner ∈ g.nodes ∧ target ∈ g.nodes := by
      have path := (Relation.reflTransGen_iff_eq_or_transGen.mp path).resolve_left same
      exact (wf.mem_of_transGen (TransGen.mono g.usesStructurally_le_uses _ _ path)).symm
    simp only [wouldCycle, hasNode, Bool.or_eq_true, beq_iff_eq, same, false_or, Bool.and_eq_true,
      List.contains_iff_mem, search]
    exact ⟨And.right, fun path => ⟨ends path, path⟩⟩

end ComponentMarkup.UsageGraph
