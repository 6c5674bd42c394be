import ComponentMarkup.Component.Registry

/-!
# Where components come from

Every component that a registry knows was built from the template of its path. Whatever holds of all
components that can be built so holds of all that a registry ever hands out, through all naming and
building.

## Main definitions

* `Component.IsBuilt` — a component from a template given for its path, or from its file
* `Registry.Holds` — a property of every path that was built with success and its component

## Main results

* `Registry.Holds.precompile`, `Registry.Holds.registerTag`, `Registry.Holds.register` — building
  keeps what holds of everything that can be built
* `Registry.Holds.resolveTag` — what a tag stands for has the property
-/

namespace ComponentMarkup

open Markup (Node)

variable {s : Sources} {r : Registry} {P : String → Component → Prop} {path tag : String}
  {tree? : Option Node} {d : Component}

/-- A component from the template that was given for its path, or else from its file. -/
def Component.IsBuilt (s : Sources) (path : String) (tree? : Option Node) (d : Component) : Prop :=
  ∃ tree scopeId setup, treeOf s path tree? = .ok tree ∧ d = .ofTree path tree scopeId setup

theorem Component.IsBuilt.path_eq (built : d.IsBuilt s path tree?) : d.path = path := by
  obtain ⟨tree, scopeId, setup, _, rfl⟩ := built
  rfl

theorem Component.IsBuilt.treeOf_eq (built : d.IsBuilt s path tree?) :
    treeOf s path tree? = .ok d.tree := by
  obtain ⟨tree, scopeId, setup, found, rfl⟩ := built
  exact found

/-- What building gives is built from the template of the path. -/
theorem isBuilt_of_buildComponent {claims : Entries String}
    (h : (buildComponent s claims path tree?).1 = .ok d) : d.IsBuilt s path tree? := by
  unfold buildComponent at h
  split at h
  · exact nomatch h
  · rename_i tree found
    split at h
    · exact nomatch h
    · rename_i scopeId claims _
      cases bindings : setupOf s tree path with
      | error e => simp [bindings, Except.map] at h
      | ok setup =>
        have same : Component.ofTree path tree scopeId setup = d := by
          simpa [bindings, Except.map] using h
        exact ⟨tree, scopeId, setup, found, same.symm⟩

namespace Registry

/-- A property of every path that was built with success, and of its component. -/
def Holds (r : Registry) (P : String → Component → Prop) : Prop :=
  ∀ path d, r.outcomes.get? path = some (.ok d) → P path d

theorem holds_empty (P : String → Component → Prop) : ({} : Registry).Holds P :=
  fun _ _ h => nomatch h

namespace Holds

/-- What a path gives has the property, be it built now or known from before. -/
theorem precompile (h : r.Holds P) (supplied : ∀ d, d.IsBuilt s path tree? → P path d) :
    (r.precompile s path tree?).2.Holds P ∧
      ∀ d, (r.precompile s path tree?).1 = .ok d → P path d := by
  unfold Registry.precompile
  split
  · rename_i outcome known
    exact ⟨h, fun d same => h path d (known.trans (congrArg some same))⟩
  · refine ⟨fun other d found => ?_, fun d built => supplied d (isBuilt_of_buildComponent built)⟩
    rw [Entries.get?_insert] at found
    split at found
    · rename_i same
      subst same
      exact supplied d (isBuilt_of_buildComponent (Option.some.inj found))
    · exact h other d found

theorem nameTag (h : r.Holds P) (tag path : String) : (r.nameTag tag path).Holds P := h

theorem registerTag (h : r.Holds P) (tag : String)
    (supplied : ∀ d, d.IsBuilt s path none → P path d) : (r.registerTag s tag path).2.Holds P :=
  ((h.nameTag tag path).precompile supplied).1

theorem precompileAll (h : r.Holds P) (paths : List String)
    (supplied : ∀ path ∈ paths, ∀ d, d.IsBuilt s path none → P path d) :
    (r.precompileAll s paths).2.Holds P := by
  induction paths generalizing r with
  | nil => exact h
  | cons path paths ih =>
    have next : (r.precompile s path none).2.Holds P :=
      (h.precompile (supplied path List.mem_cons_self)).1
    have rest := fun p hp => supplied p (List.mem_cons_of_mem path hp)
    unfold Registry.precompileAll
    split
    · rename_i found
      rw [found] at next
      exact ih next rest
    · rename_i found
      rwa [found] at next

/-- Naming components keeps what holds of all components under the paths that are named. -/
theorem register (h : r.Holds P) (map : Entries String)
    (supplied : ∀ path ∈ map.values, ∀ d, d.IsBuilt s path none → P path d) :
    (r.register s map).2.Holds P := by
  refine Holds.precompileAll ?_ _ fun path hp => supplied path ?_
  · exact List.foldlRecOn (motive := (Registry.Holds · P)) map _ h fun _ h e _ =>
      h.nameTag e.1 e.2
  · exact List.mem_eraseDups.mp (List.mem_filter.mp hp).1

/-- What a tag stands for has the property. -/
theorem resolveTag (h : r.Holds P) (found : r.resolveTag tag = .ok (some d)) :
    ∃ path, P path d := by
  unfold Registry.resolveTag at found
  split at found
  · rename_i path _
    refine ⟨path, h path d ?_⟩
    unfold getComponent at found
    split at found
    · rename_i known
      obtain rfl : _ = d := by simpa [Except.map] using found
      exact known
    · exact nomatch found
  · exact nomatch found

end Holds

end Registry

end ComponentMarkup
