import ComponentMarkup.Proofs.Component.Supply
import ComponentMarkup.Render.Walk

/-!
# Triples for walks

What a part of a walk does to the usage graph is said by a precondition and a postcondition, and of
two parts at once: from the same start they have the same outcome. Two parts differ only in how they
render lists further down, so this says what a walk needs of the lists below to be sure of its own
outcome.

A part may always fail with an error of the compilation. Whether it may also stop because lists nest
too deep, and which components it may come across, is agreed on beforehand.

## Main definitions

* `Walk.Proviso` — the components that may turn up, and whether a walk may stop for its depth
* `Walk.Triple` — the same outcome from the same start, and the postcondition if there is a result

## Main results

* `Triple.bind`, `Triple.ite` — triples of walks that are put together
* `Triple.recordUsage`, `Triple.registerTag`, `Triple.resolveTag` — triples of what changes or asks
  for what is known
-/

namespace ComponentMarkup.Walk

variable {α β : Type}

/-- What is agreed on beforehand. -/
structure Proviso where
  /-- What holds of all components that may turn up. -/
  supplied : Component → Prop
  /-- Whether a walk may stop because lists nest too deep. -/
  mayStop : Prop

/-- An outcome as agreed on, with the postcondition if it is a result. -/
inductive Settled (t : Proviso) (Q : α → UsageGraph → Prop) : Except Halt (α × Progress) → Prop
  | failed (e : CompileError) : Settled t Q (.error (.failed e))
  | tooDeep (stops : t.mayStop) : Settled t Q (.error .tooDeep)
  | ok {a : α} {p : Progress} (known : p.registry.Holds fun _ => t.supplied) (post : Q a p.graph) :
    Settled t Q (.ok (a, p))

/-- From each start with the precondition both walks have the same outcome, and it is settled. -/
structure Triple (t : Proviso) (P : UsageGraph → Prop) (w v : Walk α)
    (Q : α → UsageGraph → Prop) : Prop where
  outcome : ∀ p : Progress, (p.registry.Holds fun _ => t.supplied) → P p.graph →
    w p = v p ∧ Settled t Q (w p)

namespace Triple

variable {t : Proviso} {P : UsageGraph → Prop} {Q Q' : α → UsageGraph → Prop}
  {S : β → UsageGraph → Prop} {w v : Walk α} {f f' : α → Walk β}

/-! ### Walks that are put together -/

theorem pure {a : α} (post : ∀ g, P g → Q a g) : Triple t P (Walk.pure a) (Walk.pure a) Q :=
  ⟨fun _ known pre => ⟨rfl, .ok known (post _ pre)⟩⟩

/-- A result changes nothing, and an error ends the walk. -/
theorem of (r : Compiled α) (post : ∀ a, r = .ok a → ∀ g, P g → Q a g) :
    Triple t P (Walk.of r) (Walk.of r) Q := by
  constructor
  intro p known pre
  refine ⟨rfl, ?_⟩
  cases r with
  | error e => exact .failed e
  | ok a => exact .ok known (post a rfl p.graph pre)

theorem fail (e : CompileError) : Triple t P (Walk.fail e) (Walk.fail e) Q :=
  .of _ fun _ impossible => nomatch impossible

theorem bind (first : Triple t P w v Q) (next : ∀ a, Triple t (Q a) (f a) (f' a) S) :
    Triple t P (Walk.bind w f) (Walk.bind v f') S := by
  constructor
  intro p known pre
  obtain ⟨same, settled⟩ := first.outcome p known pre
  unfold Walk.bind
  rw [← same]
  generalize w p = outcome at settled
  cases settled with
  | failed e => exact ⟨rfl, .failed e⟩
  | tooDeep stops => exact ⟨rfl, .tooDeep stops⟩
  | ok known post => exact (next _).outcome _ known post

/-- What follows a result, from the same precondition. -/
theorem bind_of {r : Compiled α} (next : ∀ a, r = .ok a → Triple t P (f a) (f' a) S) :
    Triple t P (Walk.bind (Walk.of r) f) (Walk.bind (Walk.of r) f') S := by
  cases r with
  | error e => exact ⟨fun _ _ _ => ⟨rfl, .failed e⟩⟩
  | ok a => exact next a rfl

/-- A choice that both walks make alike. -/
theorem ite {c : Prop} [Decidable c] {w' v' : Walk α} (yes : c → Triple t P w v Q)
    (no : ¬ c → Triple t P w' v' Q) :
    Triple t P (if c then w else w') (if c then v else v') Q := by
  by_cases h : c
  · simpa only [if_pos h] using yes h
  · simpa only [if_neg h] using no h

theorem mono (triple : Triple t P w v Q) (post : ∀ a g, Q a g → Q' a g) : Triple t P w v Q' := by
  constructor
  intro p known pre
  obtain ⟨same, settled⟩ := triple.outcome p known pre
  refine ⟨same, ?_⟩
  generalize w p = outcome at settled
  cases settled with
  | failed e => exact .failed e
  | tooDeep stops => exact .tooDeep stops
  | ok known holds => exact .ok known (post _ _ holds)

/-- A precondition is met by one graph at a time. -/
theorem of_graph (each : ∀ g, P g → Triple t (· = g) w v Q) : Triple t P w v Q :=
  ⟨fun p known pre => (each p.graph pre).outcome p known rfl⟩

/-! ### What is known of components and usages -/

theorem resolveTag (tag : String) :
    Triple t P (Walk.resolveTag tag) (Walk.resolveTag tag)
      fun d? g => P g ∧ ∀ d, d? = some d → t.supplied d := by
  constructor
  intro p known pre
  refine ⟨rfl, ?_⟩
  unfold Walk.resolveTag
  cases found : p.registry.resolveTag tag with
  | error e => exact .failed e
  | ok d? =>
    refine .ok known ⟨pre, fun d same => ?_⟩
    subst same
    obtain ⟨_, supplied⟩ := known.resolveTag found
    exact supplied

theorem registerTag {s : Sources} {path : String} (tag : String)
    (supplied : ∀ d, d.IsBuilt s path none → t.supplied d) :
    Triple t P (Walk.registerTag s tag path) (Walk.registerTag s tag path) fun _ => P := by
  constructor
  intro p known pre
  refine ⟨rfl, ?_⟩
  have after := known.registerTag tag supplied
  unfold Walk.registerTag
  split
  · rename_i found
    rw [found] at after
    exact .ok after pre
  · exact .failed _

/-- A usage is recorded if the graph accepts it. -/
theorem recordUsage (u : Usage) (g : UsageGraph) :
    Triple t (· = g) (Walk.recordUsage u) (Walk.recordUsage u) fun _ g' => g.record u = .ok g' := by
  constructor
  rintro p known rfl
  refine ⟨rfl, ?_⟩
  unfold Walk.recordUsage
  split
  · rename_i accepted
    exact .ok known accepted
  · exact .failed _

end Triple

end ComponentMarkup.Walk
