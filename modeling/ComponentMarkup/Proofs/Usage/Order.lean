import ComponentMarkup.Proofs.Usage.Recording
import ComponentMarkup.Usage.Order

/-!
# The order of components

The order lists every known component once, on graphs with cycles as well. What a component uses
directly comes before it, unless it uses the component in turn. So where usages form no cycle, a
component comes after all that it uses, directly or through others.

The work on tasks is followed by two invariants. `Working` counts: what has been seen is what is
listed or waits to be listed. `Sorting` adds why the order is right: a component that waits to be
listed only uses what has been seen or comes before it, and it uses all that stands before it. So
whatever it uses that is not listed at its turn waits further down, and uses it in turn.

## Main definitions

* `UsageGraph.Working` — the invariant of the work on tasks
* `UsageGraph.Met` — a component has been seen or is to be visited
* `UsageGraph.Sorting` — the invariant that says why the order is right
* `UsageGraph.ListedBefore` — one component comes before another in the order

## Main results

* `nodup_overallOrder`, `mem_overallOrder` — each known component is listed once
* `overallOrder_lists_used_first` — what a component uses comes before it, except on cycles
* `componentsUsed_pairwise` — without cycles, nothing is used by what comes after it
* `nearestCommonAncestor_eq_some` — the nearest common ancestor is or uses both components
-/

namespace ComponentMarkup.UsageGraph

open Relation (ReflTransGen TransGen)

variable {g : UsageGraph} {a b c n : String} {seen order : List String} {tasks : List Task}

/-- The component that a task is about. -/
def Task.path : Task → String
  | .visit n => n
  | .list n => n

/-- The components that wait to be listed. -/
def opened : List Task → List String
  | [] => []
  | .visit _ :: tasks => opened tasks
  | .list n :: tasks => n :: opened tasks

@[simp] theorem opened_visits (paths : List String) (tasks : List Task) :
    opened (paths.map Task.visit ++ tasks) = opened tasks := by
  induction paths with
  | nil => rfl
  | cons p ps ih => exact ih

@[simp] theorem mem_opened : n ∈ opened tasks ↔ .list n ∈ tasks := by
  induction tasks with
  | nil => simp [opened]
  | cons t ts ih => cases t <;> simp [opened, ih]

/-! ### What is listed -/

/-- What has been seen is listed or waits to be listed, and all of it is different. -/
structure Working (seen order : List String) (tasks : List Task) : Prop where
  nodup : seen.Nodup
  perm : seen.Perm (opened tasks ++ order)

namespace Working

theorem list (w : Working seen order (.list n :: tasks)) : Working seen (n :: order) tasks :=
  ⟨w.nodup, w.perm.trans List.perm_middle.symm⟩

theorem skip (w : Working seen order (.visit n :: tasks)) : Working seen order tasks :=
  ⟨w.nodup, w.perm⟩

theorem visit (w : Working seen order (.visit n :: tasks)) (new : n ∉ seen) (below : List String) :
    Working (n :: seen) order (below.map Task.visit ++ .list n :: tasks) where
  nodup := List.nodup_cons.mpr ⟨new, w.nodup⟩
  perm := by
    rw [opened_visits]
    exact w.perm.cons n

theorem mem_seen_iff (w : Working seen order tasks) : n ∈ seen ↔ .list n ∈ tasks ∨ n ∈ order := by
  rw [w.perm.mem_iff, List.mem_append, mem_opened]

/-- What waits to be listed is not listed yet. -/
theorem notMem_order (w : Working seen order (.list n :: tasks)) : n ∉ order := by
  have distinct := w.perm.nodup_iff.mp w.nodup
  rw [opened, List.cons_append, List.nodup_cons] at distinct
  exact fun listed => distinct.1 (List.mem_append_right _ listed)

end Working

theorem nodup_work (w : Working seen order tasks) : (g.work seen order tasks).Nodup := by
  fun_induction work g seen order tasks with
  | case1 seen order => exact List.nodup_reverse.mpr (w.perm.nodup_iff.mp w.nodup)
  | case2 seen order n tasks ih => exact ih w.list
  | case3 seen order n tasks _ ih => exact ih w.skip
  | case4 seen order n tasks h ih => exact ih (w.visit (not_or.mp h).1 _)

/-- Only known components are listed. -/
theorem work_subset (w : Working seen order tasks) (known : seen ⊆ g.nodes) :
    g.work seen order tasks ⊆ g.nodes := by
  fun_induction work g seen order tasks with
  | case1 seen order =>
    intro n hn
    exact known (w.perm.mem_iff.mpr (List.mem_reverse.mp hn))
  | case2 seen order n tasks ih => exact ih w.list known
  | case3 seen order n tasks _ ih => exact ih w.skip known
  | case4 seen order n tasks h ih =>
    obtain ⟨new, hn⟩ := not_or.mp h
    exact ih (w.visit new _) (List.cons_subset.mpr ⟨not_not.mp hn, known⟩)

/-- The component has been seen, or one of the tasks visits it. -/
def Met (seen : List String) (tasks : List Task) (n : String) : Prop :=
  n ∈ seen ∨ .visit n ∈ tasks

namespace Met

theorem list {m : String} (met : Met seen (.list m :: tasks) n) : Met seen tasks n :=
  Or.imp_right (fun pending => (List.mem_cons.mp pending).resolve_left (by simp)) met

/-- A visit may be left out if its component has been seen or is not known. -/
theorem skip {m : String} (met : Met seen (.visit m :: tasks) n)
    (skipped : m ∈ seen ∨ m ∉ g.nodes) (known : n ∈ g.nodes) : Met seen tasks n := by
  rcases met with old | pending
  · exact .inl old
  rcases List.mem_cons.mp pending with same | later
  · obtain rfl : n = m := Task.visit.inj same
    exact .inl (skipped.resolve_right (not_not_intro known))
  · exact .inr later

theorem visit {m : String} (met : Met seen (.visit m :: tasks) n) (first : List Task) :
    Met (m :: seen) (first ++ .list m :: tasks) n := by
  rcases met with old | pending
  · exact .inl (List.mem_cons_of_mem m old)
  rcases List.mem_cons.mp pending with same | later
  · obtain rfl : n = m := Task.visit.inj same
    exact .inl List.mem_cons_self
  · exact .inr (List.mem_append_right _ (List.mem_cons_of_mem _ later))

end Met

/-- All known components that have been seen or are to be visited are listed in the end. -/
theorem mem_work (w : Working seen order tasks) (met : Met seen tasks n) (known : n ∈ g.nodes) :
    n ∈ g.work seen order tasks := by
  fun_induction work g seen order tasks with
  | case1 seen order =>
    exact List.mem_reverse.mpr (w.perm.mem_iff.mp (met.resolve_right List.not_mem_nil))
  | case2 seen order m tasks ih => exact ih w.list met.list
  | case3 seen order m tasks skipped ih => exact ih w.skip (met.skip skipped known)
  | case4 seen order m tasks new ih => exact ih (w.visit (not_or.mp new).1 _) (met.visit _)

/-- Before the first task nothing has been seen. -/
theorem working_start (paths : List String) : Working [] [] (paths.map Task.visit) where
  nodup := List.nodup_nil
  perm := by
    have none : opened (paths.map Task.visit) = [] := by simpa [opened] using opened_visits paths []
    rw [none]
    exact .refl _

/-- No component is listed twice. -/
theorem nodup_overallOrder (g : UsageGraph) : g.overallOrder.Nodup := nodup_work (working_start _)

/-- Exactly the known components are listed. -/
@[simp] theorem mem_overallOrder : n ∈ g.overallOrder ↔ n ∈ g.nodes := by
  constructor
  · exact fun h => work_subset (working_start _) (List.nil_subset _) h
  · exact fun h => mem_work (working_start _) (.inr (List.mem_map.mpr ⟨n, h, rfl⟩)) h

theorem nodup_componentsUsed (g : UsageGraph) : g.componentsUsed.Nodup :=
  List.nodup_reverse.mpr g.nodup_overallOrder

@[simp] theorem mem_componentsUsed : n ∈ g.componentsUsed ↔ n ∈ g.nodes := by
  rw [componentsUsed, List.mem_reverse, mem_overallOrder]

/-! ### Why the order is right -/

/-- Each component that waits to be listed only uses what is done by then: what is done already,
and what the tasks before it are about. -/
def Due (g : UsageGraph) : List String → List Task → Prop
  | _, [] => True
  | done, .visit n :: tasks => Due g (n :: done) tasks
  | done, .list n :: tasks => (∀ d, g.Uses n d → d ∈ done) ∧ Due g (n :: done) tasks

theorem Due.mono {done done' : List String} (due : Due g done tasks) (le : done ⊆ done') :
    Due g done' tasks := by
  induction tasks generalizing done done' with
  | nil => trivial
  | cons t ts ih =>
    cases t with
    | visit n => exact ih due (List.cons_subset_cons n le)
    | list n => exact ⟨fun d use => le (due.1 d use), ih due.2 (List.cons_subset_cons n le)⟩

/-- Visits promise what they are about. -/
theorem due_visits {done paths : List String} :
    Due g done (paths.map Task.visit ++ tasks) ↔ Due g (paths.reverse ++ done) tasks := by
  induction paths generalizing done with
  | nil => rfl
  | cons p ps ih =>
    rw [List.map_cons, List.cons_append, Due, ih, List.reverse_cons, List.append_assoc]
    rfl

/-- The invariant of the work on tasks that says why the order is right. -/
structure Sorting (g : UsageGraph) (seen order : List String) (tasks : List Task) : Prop
    extends Working seen order tasks where
  known : ∀ n, .visit n ∈ tasks → n ∈ g.nodes
  due : Due g seen tasks
  /-- What waits to be listed uses all that stands before it. -/
  below : tasks.Pairwise fun t u => ∀ m, u = .list m → TransGen g.Uses m t.path
  /-- What is listed uses only what is listed, or what uses it in turn. -/
  closed : ∀ m ∈ order, ∀ d, g.Uses m d → d ∈ order ∨ TransGen g.Uses d m
  sorted : order.Pairwise fun x y => g.Uses y x → TransGen g.Uses x y

namespace Sorting

/-- What a component uses that is listed now is listed already, or waits further down and so uses
the component. -/
theorem mem_order_or_transGen (s : Sorting g seen order (.list n :: tasks)) {d : String}
    (use : g.Uses n d) : d ∈ n :: order ∨ TransGen g.Uses d n := by
  rcases s.toWorking.mem_seen_iff.mp (s.due.1 d use) with waiting | listed
  · rcases List.mem_cons.mp waiting with same | later
    · obtain rfl : d = n := Task.list.inj same
      exact .inl List.mem_cons_self
    · exact .inr ((List.pairwise_cons.mp s.below).1 _ later d rfl)
  · exact .inl (List.mem_cons_of_mem n listed)

/-- A component is listed after all that it uses, except for what uses it in turn. -/
theorem list (s : Sorting g seen order (.list n :: tasks)) : Sorting g seen (n :: order) tasks where
  toWorking := s.toWorking.list
  known m hm := s.known m (List.mem_cons_of_mem _ hm)
  due := s.due.2.mono (List.cons_subset.mpr
    ⟨s.toWorking.mem_seen_iff.mpr (.inl List.mem_cons_self), List.Subset.refl _⟩)
  below := (List.pairwise_cons.mp s.below).2
  closed := by
    intro m hm d use
    rcases List.mem_cons.mp hm with rfl | hm
    · exact s.mem_order_or_transGen use
    · exact (s.closed m hm d use).imp_left (List.mem_cons_of_mem n)
  sorted := List.pairwise_cons.mpr ⟨fun m hm use =>
    (s.closed m hm n use).resolve_left s.toWorking.notMem_order, s.sorted⟩

/-- A component that has been seen needs no second visit. -/
theorem skip (s : Sorting g seen order (.visit n :: tasks)) (skipped : n ∈ seen ∨ n ∉ g.nodes) :
    Sorting g seen order tasks where
  toWorking := s.toWorking.skip
  known m hm := s.known m (List.mem_cons_of_mem _ hm)
  due := by
    have old : n ∈ seen := skipped.resolve_right (not_not_intro (s.known n List.mem_cons_self))
    have due : Due g (n :: seen) tasks := s.due
    exact due.mono (List.cons_subset.mpr ⟨old, List.Subset.refl _⟩)
  below := (List.pairwise_cons.mp s.below).2
  closed := s.closed
  sorted := s.sorted

/-- A new component is listed after visits to all that it uses. -/
theorem visit (s : Sorting g seen order (.visit n :: tasks)) (wf : g.WellFormed) (new : n ∉ seen) :
    Sorting g (n :: seen) order ((g.dependencies n).map Task.visit ++ .list n :: tasks) where
  toWorking := s.toWorking.visit new _
  known := by
    intro m hm
    rcases List.mem_append.mp hm with hm | hm
    · obtain ⟨d, hd, same⟩ := List.mem_map.mp hm
      rw [← Task.visit.inj same]
      exact (wf.mem_of_uses (mem_dependencies.mp hd)).2
    · exact s.known m (List.mem_cons_of_mem _ ((List.mem_cons.mp hm).resolve_left nofun))
  due := by
    have due : Due g (n :: seen) tasks := s.due
    rw [due_visits]
    refine ⟨fun d use => ?_, due.mono (fun m hm => ?_)⟩
    · exact List.mem_append_left _ (List.mem_reverse.mpr (mem_dependencies.mpr use))
    · exact List.mem_cons_of_mem n (List.mem_append_right _ hm)
  below := by
    obtain ⟨above, rest⟩ := List.pairwise_cons.mp s.below
    rw [List.pairwise_append, List.pairwise_cons]
    refine ⟨?_, ⟨above, rest⟩, ?_⟩
    · refine List.pairwise_of_forall_mem_list fun t _ u hu m same => ?_
      obtain ⟨_, _, rfl⟩ := List.mem_map.mp hu
      exact nomatch same
    · intro t ht u hu m same
      obtain ⟨d, hd, rfl⟩ := List.mem_map.mp ht
      have use : g.Uses n d := mem_dependencies.mp hd
      rcases List.mem_cons.mp hu with rfl | hu
      · rw [← Task.list.inj same]
        exact .single use
      · exact (above u hu m same).tail use
  closed := s.closed
  sorted := s.sorted

end Sorting

theorem work_pairwise (wf : g.WellFormed) (s : Sorting g seen order tasks) :
    (g.work seen order tasks).Pairwise fun x y => g.Uses x y → TransGen g.Uses y x := by
  fun_induction work g seen order tasks with
  | case1 seen order => exact List.pairwise_reverse.mpr s.sorted
  | case2 seen order n tasks ih => exact ih s.list
  | case3 seen order n tasks skipped ih => exact ih (s.skip skipped)
  | case4 seen order n tasks h ih => exact ih (s.visit wf (not_or.mp h).1)

/-- Before the first task all known components are to be visited. -/
theorem sorting_start (g : UsageGraph) : Sorting g [] [] (g.nodes.map Task.visit) where
  toWorking := working_start _
  known := by simp
  due := by
    have promised : Due g [] (g.nodes.map Task.visit ++ []) := due_visits.mpr trivial
    simpa using promised
  below := by
    refine List.pairwise_of_forall_mem_list fun t _ u hu m same => ?_
    obtain ⟨_, _, rfl⟩ := List.mem_map.mp hu
    exact nomatch same
  closed := fun _ h => absurd h List.not_mem_nil
  sorted := List.Pairwise.nil

/-! ### Places in the order -/

/-- A component comes before another in the order. -/
def ListedBefore (g : UsageGraph) (a b : String) : Prop :=
  g.overallOrder.idxOf a < g.overallOrder.idxOf b

/-- What holds of every component and each one after it in the order. -/
theorem overallOrder_pairwise_iff {r : String → String → Prop} :
    g.overallOrder.Pairwise r ↔ ∀ a ∈ g.nodes, ∀ b ∈ g.nodes, g.ListedBefore a b → r a b := by
  rw [List.pairwise_iff_getElem]
  constructor
  · intro all a ha b hb before
    have later := List.idxOf_lt_length_of_mem (mem_overallOrder.mpr hb)
    simpa using all _ _ (Nat.lt_trans before later) later before
  · intro all i j hi hj lt
    refine all _ (mem_overallOrder.mp (List.getElem_mem hi)) _
      (mem_overallOrder.mp (List.getElem_mem hj)) ?_
    have distinct := g.nodup_overallOrder
    rwa [ListedBefore, distinct.idxOf_getElem, distinct.idxOf_getElem]

/-- What a component uses comes before it, or uses it in turn. -/
theorem listedBefore_or_transGen (wf : g.WellFormed) (use : g.Uses a b) :
    g.ListedBefore b a ∨ TransGen g.Uses b a := by
  obtain ⟨ha, hb⟩ := wf.mem_of_uses use
  rcases Nat.lt_trichotomy (g.overallOrder.idxOf b) (g.overallOrder.idxOf a) with lt | eq | gt
  · exact .inl lt
  · obtain rfl : b = a := (List.idxOf_inj (mem_overallOrder.mpr hb)).mp eq
    exact .inr (.single use)
  · have sorted := work_pairwise wf (sorting_start g)
    exact .inr (overallOrder_pairwise_iff.mp sorted a ha b hb gt use)

/-- Where usages form no cycle, all that a component uses comes before it. -/
theorem listedBefore_of_transGen (wf : g.WellFormed) (acyclic : Acyclic g.Uses)
    (path : TransGen g.Uses a b) : g.ListedBefore b a := by
  have step : ∀ {a b}, g.Uses a b → g.ListedBefore b a := fun use =>
    (listedBefore_or_transGen wf use).resolve_right fun back => acyclic _ (back.tail use)
  induction path with
  | single use => exact step use
  | tail _ use ih => exact Nat.lt_trans (step use) ih

/-- Where usages form no cycle, no component is used by one that comes after it. -/
theorem componentsUsed_pairwise (wf : g.WellFormed) (acyclic : Acyclic g.Uses) :
    g.componentsUsed.Pairwise fun x y => ¬ TransGen g.Uses y x :=
  List.pairwise_reverse.mpr (overallOrder_pairwise_iff.mpr fun _ _ _ _ before path =>
    Nat.lt_asymm before (listedBefore_of_transGen wf acyclic path))

/-- The order of components, on graphs that were built from a log of usages and by any calls
after that, with cycles or without. Each known component is listed once. What a component uses comes
before it, or uses it in turn, directly or through others; so where usages form no cycle, all that a
component uses, directly or through others, comes before it. -/
theorem overallOrder_lists_used_first (root : Option String) (log : List Usage)
    (calls : List Call) :
    let g := ((ofUsages root log).perform calls).2
    (∀ n, g.overallOrder.count n = if n ∈ g.nodes then 1 else 0) ∧
      (∀ a b, g.Uses a b → g.ListedBefore b a ∨ TransGen g.Uses b a) ∧
      (Acyclic g.Uses → ∀ a b, TransGen g.Uses a b → g.ListedBefore b a) := by
  intro g
  have wf : g.WellFormed := (wellFormed_ofUsages root log).perform calls
  refine ⟨fun n => ?_, fun a b => listedBefore_or_transGen wf,
    fun acyclic a b => listedBefore_of_transGen wf acyclic⟩
  split
  · rename_i known
    exact List.count_eq_one_of_mem g.nodup_overallOrder (mem_overallOrder.mpr known)
  · rename_i unknown
    exact List.count_eq_zero.mpr (mt mem_overallOrder.mp unknown)

/-- On a cycle the order depends on where the walk begins. -/
example : (ofUsages none [⟨"menu", "item", .structural⟩, ⟨"item", "menu", .slotted⟩]).overallOrder =
    ["item", "menu"] := by
  cbv

/-! ### The nearest common ancestor -/

/-- The nearest common ancestor of two components is or uses both. -/
theorem nearestCommonAncestor_eq_some (wf : g.WellFormed)
    (h : g.nearestCommonAncestor a b = some c) :
    c ∈ g.nodes ∧ g.IsOrUses c a ∧ g.IsOrUses c b := by
  have hc := List.mem_of_getLast? h
  simpa [List.mem_filter, mem_ancestors wf] using hc

end ComponentMarkup.UsageGraph
