import ComponentMarkup.Proofs.Usage.Order
import ComponentMarkup.Proofs.Usage.Recording

/-!
# Logs of usages

A run records each usage twice: in a graph that turns cycles away, and in a log from which the
graph of the result is built. The log may lack usages, but where it has one it also has, before it,
the usage that brought the owner in. So the graph of the log is one that the root reaches all of,
and a walk through it in depth lists the root last of all.

## Main definitions

* `UsageGraph.Grows` — a graph after usages that were all accepted
* `UsageGraph.Grounded` — each owner is known, or the target of an earlier usage
* `UsageGraph.Kept` — a log that is kept while a graph grows
* `UsageGraph.Followed` — what the components seen use has been seen or is to be visited

## Main results

* `Grows.eq_foldl` — accepted usages are those that a log of them adds
* `Grounded.isOrUses_ofUsages` — the root is or uses everything in the graph of its log
* `head?_componentsUsed` — what uses everything is listed first
* `sublist_componentsUsed` — users are listed before what they use
-/

namespace ComponentMarkup.UsageGraph

open Relation (ReflTransGen TransGen)

variable {g g' g'' : UsageGraph} {u : Usage} {log more : List Usage} {known : List String}
  {root n : String}

/-! ### Usages that were all accepted -/

/-- The second graph is the first after the usages, each of which was accepted at its turn. -/
inductive Grows : UsageGraph → List Usage → UsageGraph → Prop
  | nil (g : UsageGraph) : Grows g [] g
  | cons {g g' g'' : UsageGraph} {u : Usage} {log : List Usage} (accepted : g.record u = .ok g')
      (rest : Grows g' log g'') : Grows g (u :: log) g''

theorem Grows.append (first : Grows g log g') (second : Grows g' more g'') :
    Grows g (log ++ more) g'' := by
  induction first with
  | nil => exact second
  | cons accepted _ ih => exact .cons accepted (ih second)

/-- A usage that is accepted is added, and if it is structural it closes no cycle. -/
theorem record_eq_ok (accepted : g.record u = .ok g') :
    g' = g.insert u ∧ ¬ (u.kind = .structural ∧ g.wouldCycle u.owner u.target = true) := by
  unfold record at accepted
  split at accepted
  · exact nomatch accepted
  · rename_i isOpen
    exact ⟨(Except.ok.inj accepted).symm, by simpa using isOpen⟩

/-- Accepted usages are those that a log of them adds. -/
theorem Grows.eq_foldl (grows : Grows g log g') : g' = log.foldl insert g := by
  induction grows with
  | nil => rfl
  | cons accepted _ ih => rw [ih, (record_eq_ok accepted).1, List.foldl_cons]

/-- Accepted usages keep the invariant of recorded graphs. -/
theorem Grows.recorded (grows : Grows g log g') (h : g.Recorded) : g'.Recorded := by
  induction grows with
  | nil => exact h
  | cons accepted _ ih =>
    obtain ⟨rfl, isOpen⟩ := record_eq_ok accepted
    refine ih (h.insert fun kind back => isOpen ⟨kind, ?_⟩)
    exact (wouldCycle_iff h.wellFormed).mpr back

/-! ### What a log adds -/

theorem usesStructurally_foldl_insert (g : UsageGraph) (log : List Usage) (a b : String) :
    (log.foldl insert g).UsesStructurally a b ↔
      g.UsesStructurally a b ∨ ⟨a, b, .structural⟩ ∈ log := by
  induction log generalizing g with
  | nil => simp
  | cons u log ih => rw [List.foldl_cons, ih, usesStructurally_insert, List.mem_cons, or_assoc,
      eq_comm (a := u)]

theorem mem_nodes_foldl_insert (g : UsageGraph) (log : List Usage) :
    n ∈ (log.foldl insert g).nodes ↔ n ∈ g.nodes ∨ ∃ u ∈ log, n = u.owner ∨ n = u.target := by
  induction log generalizing g with
  | nil => simp
  | cons u log ih =>
    rw [List.foldl_cons, ih, mem_nodes_insert]
    simp only [List.mem_cons, exists_eq_or_imp, or_assoc]

/-- The structural usages in the graph of a log are those in the log. -/
theorem usesStructurally_ofUsages (root : Option String) (log : List Usage) (a b : String) :
    (ofUsages root log).UsesStructurally a b ↔ ⟨a, b, .structural⟩ ∈ log := by
  unfold ofUsages
  rw [usesStructurally_foldl_insert]
  cases root <;> simp [UsesStructurally]

/-- The components in the graph of a log are the root and those that the log is about. -/
theorem mem_nodes_ofUsages (root : String) (log : List Usage) :
    n ∈ (ofUsages (some root) log).nodes ↔
      n = root ∨ ∃ u ∈ log, n = u.owner ∨ n = u.target := by
  unfold ofUsages
  rw [mem_nodes_foldl_insert, mem_nodes_addNode]
  simp

/-- The first component stays first. -/
theorem head?_nodes_addNode (first : g.nodes.head? = some root) (path : String) :
    (g.addNode path).nodes.head? = some root := by
  unfold addNode
  split
  · exact first
  · simp [List.head?_append, first]

/-- The root comes first in the graph of its log. -/
theorem head?_nodes_ofUsages (root : String) (log : List Usage) :
    (ofUsages (some root) log).nodes.head? = some root := by
  have grow : ∀ g : UsageGraph, g.nodes.head? = some root →
      (log.foldl insert g).nodes.head? = some root := by
    induction log with
    | nil => exact fun g first => first
    | cons u log ih =>
      intro g first
      refine ih (g.insert u) ?_
      have both := head?_nodes_addNode (head?_nodes_addNode first u.owner) u.target
      simp only [insert]
      split <;> exact both
  exact grow _ rfl

/-! ### Logs in which every owner comes in before it uses anything -/

/-- The owner of each usage is known, or the target of an earlier usage. -/
def Grounded : List String → List Usage → Prop
  | _, [] => True
  | known, u :: log => u.owner ∈ known ∧ Grounded (u.target :: known) log

theorem Grounded.mono {known' : List String} (grounded : Grounded known log)
    (le : known ⊆ known') : Grounded known' log := by
  induction log generalizing known known' with
  | nil => trivial
  | cons u log ih =>
    exact ⟨le grounded.1, ih grounded.2 (List.cons_subset_cons u.target le)⟩

theorem Grounded.append (first : Grounded known log) (second : Grounded known more) :
    Grounded known (log ++ more) := by
  induction log generalizing known with
  | nil => exact second
  | cons u log ih =>
    exact ⟨first.1, ih first.2 (second.mono (List.subset_cons_self u.target known))⟩

/-- What is or uses all that is known at the start is or uses all that the log is about. -/
theorem Grounded.isOrUses (grounded : Grounded known log)
    (logged : ∀ u ∈ log, g.Uses u.owner u.target) (start : ∀ k ∈ known, g.IsOrUses root k) :
    ∀ u ∈ log, g.IsOrUses root u.owner ∧ g.IsOrUses root u.target := by
  induction log generalizing known with
  | nil => exact fun u hu => absurd hu List.not_mem_nil
  | cons v log ih =>
    have owner : g.IsOrUses root v.owner := start _ grounded.1
    have target : g.IsOrUses root v.target := owner.tail (logged v List.mem_cons_self)
    intro u hu
    rcases List.mem_cons.mp hu with rfl | hu
    · exact ⟨owner, target⟩
    · refine ih grounded.2 (fun w hw => logged w (List.mem_cons_of_mem v hw)) ?_ u hu
      intro k hk
      rcases List.mem_cons.mp hk with rfl | hk
      · exact target
      · exact start k hk

/-- The root is or uses everything in the graph of its log. -/
theorem Grounded.isOrUses_ofUsages (grounded : Grounded [root] log)
    (hn : n ∈ (ofUsages (some root) log).nodes) : (ofUsages (some root) log).IsOrUses root n := by
  have ends := grounded.isOrUses (g := ofUsages (some root) log)
    (fun u hu => (uses_ofUsages ..).mpr ⟨u.kind, hu⟩)
    (fun k hk => by
      rw [List.mem_singleton.mp hk]
      exact .refl)
  rcases (mem_nodes_ofUsages root log).mp hn with rfl | ⟨u, hu, rfl | rfl⟩
  · exact .refl
  · exact (ends u hu).1
  · exact (ends u hu).2

/-! ### A log that is kept while a graph grows -/

/-- A log beside a graph that grows: each owner comes in first, and what is logged was accepted in
that order. All that was accepted is logged if the log is complete; nothing was if all is quiet. -/
structure Kept (known : List String) (complete quiet : Prop) (g : UsageGraph) (log : List Usage)
    (g' : UsageGraph) : Prop where
  grounded : Grounded known log
  made : ∃ all, Grows g all g' ∧ log.Sublist all ∧ (complete → log = all) ∧ (quiet → all = [])

namespace Kept

variable {known' : List String} {complete complete' quiet quiet' : Prop}

theorem nil (g : UsageGraph) : Kept known complete quiet g [] g :=
  ⟨trivial, [], .nil g, .refl _, fun _ => rfl, fun _ => rfl⟩

theorem append (first : Kept known complete quiet g log g')
    (second : Kept known complete quiet g' more g'') :
    Kept known complete quiet g (log ++ more) g'' := by
  obtain ⟨all, grows, logged, complete, quiet⟩ := first.made
  obtain ⟨all', grows', logged', complete', quiet'⟩ := second.made
  refine ⟨first.grounded.append second.grounded, all ++ all', grows.append grows',
    logged.append logged', fun h => ?_, fun h => ?_⟩
  · rw [complete h, complete' h]
  · rw [quiet h, quiet' h, List.append_nil]

theorem mono (kept : Kept known complete quiet g log g') (le : known ⊆ known')
    (isComplete : complete' → complete) (isQuiet : quiet' → quiet) :
    Kept known' complete' quiet' g log g' := by
  obtain ⟨all, grows, logged, all_logged, none_made⟩ := kept.made
  exact ⟨kept.grounded.mono le, all, grows, logged, all_logged ∘ isComplete, none_made ∘ isQuiet⟩

/-- A usage that is accepted and logged before the others makes its target known to them. -/
theorem cons (accepted : g.record u = .ok g') (owner : u.owner ∈ known)
    (rest : Kept (u.target :: known) complete quiet g' log g'') :
    Kept known complete False g (u :: log) g'' := by
  obtain ⟨all, grows, logged, all_logged, _⟩ := rest.made
  exact ⟨⟨owner, rest.grounded⟩, u :: all, .cons accepted grows, logged.cons_cons u,
    fun h => congrArg (u :: ·) (all_logged h), False.elim⟩

/-- A log that is thrown away leaves a complete one only if there was nothing to log. -/
theorem discard (kept : Kept known complete quiet g log g') (isQuiet : complete' → quiet) :
    Kept known' complete' False g [] g' := by
  obtain ⟨all, grows, _, _, none_made⟩ := kept.made
  exact ⟨trivial, all, grows, all.nil_sublist, fun h => (none_made (isQuiet h)).symm, False.elim⟩

end Kept

/-! ### The first component -/

section First

variable {seen order : List String} {tasks below later : List Task}

/-- Visits to components that have been seen list nothing. -/
theorem work_visits_of_seen (paths : List String) (old : ∀ p ∈ paths, p ∈ seen) :
    g.work seen order (paths.map Task.visit) = order.reverse := by
  induction paths with
  | nil => simp [work]
  | cons p paths ih =>
    have skipped : p ∈ seen ∨ p ∉ g.nodes := .inl (old p List.mem_cons_self)
    rw [List.map_cons, work, if_pos skipped]
    exact ih fun q hq => old q (List.mem_cons_of_mem p hq)

/-- What the components seen use has been seen too, or is to be visited. -/
def Followed (g : UsageGraph) (seen : List String) (tasks : List Task) : Prop :=
  ∀ a ∈ seen, ∀ b, g.Uses a b → Met seen tasks b

namespace Followed

/-- Without tasks, all that a component seen reaches has been seen. -/
theorem mem_of_isOrUses (followed : g.Followed seen []) (started : root ∈ seen)
    (path : g.IsOrUses root n) : n ∈ seen := by
  induction path with
  | refl => exact started
  | tail _ use ih => exact (followed _ ih _ use).resolve_right List.not_mem_nil

theorem list (followed : g.Followed seen (.list n :: tasks)) : g.Followed seen tasks :=
  fun a ha b use => (followed a ha b use).list

theorem skip (followed : g.Followed seen (.visit n :: tasks)) (wf : g.WellFormed)
    (skipped : n ∈ seen ∨ n ∉ g.nodes) : g.Followed seen tasks :=
  fun a ha b use => (followed a ha b use).skip skipped (wf.mem_of_uses use).2

/-- A component that is new has all that it uses visited before it is listed. -/
theorem visit (followed : g.Followed seen (.visit n :: tasks)) :
    g.Followed (n :: seen) ((g.dependencies n).map Task.visit ++ .list n :: tasks) := by
  intro a ha b use
  rcases List.mem_cons.mp ha with rfl | ha
  · exact .inr (List.mem_append_left _ (List.mem_map.mpr ⟨b, mem_dependencies.mpr use, rfl⟩))
  · exact (followed a ha b use).visit _

end Followed

/-- A visit at the head of the tasks is one of those before a component that is to be listed. -/
theorem exists_eq_visit_cons (tasks_eq : .visit n :: tasks = below ++ .list root :: later) :
    ∃ below', below = .visit n :: below' ∧ tasks = below' ++ .list root :: later := by
  simpa [List.cons_eq_append_iff] using tasks_eq

/-- A component that reaches all others, and waits to be listed while all that is left before it
comes from itself, is listed last. -/
theorem getLast?_work (reaches : ∀ n ∈ g.nodes, g.IsOrUses root n) {paths : List String}
    (known : ∀ p ∈ paths, p ∈ g.nodes) (started : root ∈ seen)
    (tasks_eq : tasks = below ++ .list root :: paths.map Task.visit)
    (followed : g.Followed seen below) (wf : g.WellFormed) :
    (g.work seen order tasks).getLast? = some root := by
  fun_induction work g seen order tasks generalizing below with
  | case1 => simp at tasks_eq
  | case2 seen order n tasks ih =>
    rcases List.cons_eq_append_iff.mp tasks_eq with ⟨rfl, here⟩ | ⟨below, rfl, rfl⟩
    · -- Nothing is left before the component, so all that it reaches has been seen.
      obtain ⟨rfl, rfl⟩ : n = root ∧ tasks = paths.map Task.visit := by simpa [eq_comm] using here
      have old : ∀ p ∈ paths, p ∈ seen := fun p hp =>
        followed.mem_of_isOrUses started (reaches p (known p hp))
      rw [work_visits_of_seen paths old, List.reverse_cons, List.getLast?_concat]
    · exact ih started rfl followed.list
  | case3 seen order n tasks skipped ih =>
    obtain ⟨below, rfl, rfl⟩ := exists_eq_visit_cons tasks_eq
    exact ih started rfl (followed.skip wf skipped)
  | case4 seen order n tasks new ih =>
    obtain ⟨below, rfl, rfl⟩ := exists_eq_visit_cons tasks_eq
    exact ih (List.mem_cons_of_mem n started) (by simp) followed.visit

/-- A component that comes first in the graph and reaches all others is listed first, whatever
cycles there are. -/
theorem head?_componentsUsed (wf : g.WellFormed) (first : g.nodes.head? = some root)
    (reaches : ∀ n ∈ g.nodes, g.IsOrUses root n) : g.componentsUsed.head? = some root := by
  obtain ⟨others, nodes⟩ : ∃ others, g.nodes = root :: others := by
    cases h : g.nodes with
    | nil => simp [h] at first
    | cons m others =>
      obtain rfl : m = root := by simpa [h] using first
      exact ⟨others, rfl⟩
  have new : ¬ (root ∈ ([] : List String) ∨ root ∉ g.nodes) := by simp [nodes]
  rw [componentsUsed, List.head?_reverse, overallOrder, nodes, List.map_cons, work, if_neg new]
  refine getLast?_work reaches (fun p hp => ?_) List.mem_cons_self rfl ?_ wf
  · rw [nodes]
    exact List.mem_cons_of_mem root hp
  · intro a ha b use
    rw [List.mem_singleton.mp ha] at use
    exact .inr (List.mem_map.mpr ⟨b, mem_dependencies.mpr use, rfl⟩)

end First

/-- Where usages form no cycle, what uses a component is listed before it. -/
theorem sublist_componentsUsed {a b : String} (wf : g.WellFormed) (acyclic : Acyclic g.Uses)
    (chain : TransGen g.Uses a b) : [a, b].Sublist g.componentsUsed := by
  obtain ⟨ha, hb⟩ := wf.mem_of_transGen chain
  obtain ⟨before, later, split⟩ := List.append_of_mem (mem_componentsUsed.mpr ha)
  have sorted := componentsUsed_pairwise wf acyclic
  have listed := mem_componentsUsed.mpr hb
  rw [split] at sorted listed ⊢
  rcases List.mem_append.mp listed with early | late
  · exact absurd chain ((List.pairwise_append.mp sorted).2.2 b early a List.mem_cons_self)
  · rcases List.mem_cons.mp late with rfl | late
    · exact absurd chain (acyclic b)
    · exact ((List.singleton_sublist.mpr late).cons_cons a).trans (List.sublist_append_right ..)

end ComponentMarkup.UsageGraph
